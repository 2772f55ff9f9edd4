import Pcrf.CcrNode
import Pcrf.StoredSessions
import Pcrf.UnknownSessions

/-!
What a node has of a session while handlers for many sessions are at work: whether the session is
cached, and what its rows in `ps.sessionList` say once all that was enqueued is executed. A handler
makes the same of it whatever the handlers of other sessions do beside it.
-/

namespace Pcrf

open Lib

/-! ### What is seen of a session -/

/-- Whether the session is cached, and its rows in the list. -/
structure SessionStanding where
  cached : Bool := false
  rows : List StoredRow := []
  deriving Repr, DecidableEq

def StoreAction.onRows : StoreAction → List StoredRow → List StoredRow
  | .list, rows => rows ++ [⟨true, .empty⟩]
  | .update isOpen terminationCause, rows => rows.map fun _ => ⟨isOpen, terminationCause⟩
  | .leave, rows | .arrive _, rows => rows

theorem rows_act (action : StoreAction) (session : StoredSession) :
    (action.act session).rows = action.onRows session.rows := by
  cases action <;> rfl

theorem rows_replay (actions : List StoreAction) (session : StoredSession) :
    (replay StoreAction.act session actions).rows =
      replay StoreAction.onRows session.rows actions := by
  induction actions generalizing session with
  | nil => rfl
  | cons action actions ih =>
    have first := ih (action.act session)
    rw [rows_act] at first
    exact first

/-- The rows are those that will be there when the queues are empty. -/
def CcrNodeState.standing (sessionId : String) (node : CcrNodeState) : SessionStanding where
  cached := (node.caches.sessions.umapSessionCache sessionId).isSome
  rows := replay StoreAction.onRows []
    (node.sql.sqlQueues.requests.filterMap (SSQLRequestInfo.action? sessionId))

/-- What a step of its own handler makes of a session. -/
def NodeStep.onStanding (standing : SessionStanding) : NodeStep → SessionStanding
  | .cache (.sessions (.insertLocal _ _ _ _)) => { standing with cached := true }
  | .cache (.sessions (.removeLocal _)) => { standing with cached := false }
  | .cache (.rules _) | .cache (.send _) => standing
  | .store statement =>
    { standing with
      rows := statement.action?.elim standing.rows fun action => action.onRows standing.rows }

/-- The step is about this session, or about none that is cached or listed. -/
def NodeStep.IsOf (sessionId : String) : NodeStep → Prop
  | .cache (.sessions op) => op.sessionId = sessionId
  | .cache (.rules _) | .cache (.send _) | .store (.rule _) => True
  | .store statement => statement.sessionId = some sessionId

section Steps

variable {s : String}

theorem store_action? {statement : StoreStatement} (isOf : (NodeStep.store statement).IsOf s)
    (now : Tm) : (statement.request now).action? s = statement.action? := by
  cases statement with
  | rule rule => exact (rule_unrelated now rule).action? s
  | insertSession sess => exact action?_request _ now isOf
  | updateSession id timeEnd timeLast termCause => exact action?_request _ now isOf
  | closeLocation id => exact action?_request _ now isOf
  | insertLocation id environment => exact action?_request _ now isOf

/-- What is enqueued is about the session, or about none. -/
theorem store_isOf {statement : StoreStatement} (isOf : (NodeStep.store statement).IsOf s)
    (named : s ≠ "") (now : Tm) : (statement.request now).IsOf s := by
  cases statement with
  | rule rule => exact (rule_unrelated now rule).isOf s
  | insertSession sess => exact request_isOf _ now isOf named
  | updateSession id timeEnd timeLast termCause => exact request_isOf _ now isOf named
  | closeLocation id => exact request_isOf _ now isOf named
  | insertLocation id environment => exact request_isOf _ now isOf named

theorem store_bySession {statement : StoreStatement} (isOf : (NodeStep.store statement).IsOf s)
    (numbered : Numbered s) (now : Tm) : (statement.request now).Unrelated ∨
      ∃ s, statement.sessionId = some s ∧ Numbered s ∧ (statement.request now).IsOf s := by
  have about := store_isOf isOf (numbered_ne_empty numbered) now
  cases statement with
  | rule rule => exact .inl (rule_unrelated now rule)
  | insertSession sess => exact .inr ⟨s, isOf, numbered, about⟩
  | updateSession id timeEnd timeLast termCause => exact .inr ⟨s, isOf, numbered, about⟩
  | closeLocation id => exact .inr ⟨s, isOf, numbered, about⟩
  | insertLocation id environment => exact .inr ⟨s, isOf, numbered, about⟩

theorem isSome_insertLocal (st : SessionCacheState) (sessionId : String) (info : SSessionCache)
    (parent : Option String) (dialect : PeerDialect) :
    ((pcrfSessionCacheInsertLocal st sessionId info parent dialect).umapSessionCache
      sessionId).isSome = true := by
  cases cached : st.umapSessionCache sessionId with
  | none =>
    rw [pcrfSessionCacheInsertLocal, cached]
    exact congrArg Option.isSome (Store.set_self ..)
  | some old => rw [insertLocal_cached cached, if_pos rfl, Option.isSome_some]

/-- Something that is enqueued adds its action to those on the session. -/
theorem standing_enqueue (node : CcrNodeState) (request : SSQLRequestInfo SqlParam)
    (sessionId : Option String) :
    CcrNodeState.standing s { node with sql := node.sql.enqueue request sessionId } =
      { node.standing s with
        rows := (request.action? s).elim (node.standing s).rows fun action =>
          action.onRows (node.standing s).rows } := by
  simp only [CcrNodeState.standing, requests_enqueue, List.filterMap_append, replay,
    List.foldl_append]
  cases action : request.action? s <;> simp [action]

theorem standing_perform_self (node : CcrNodeState) {step : NodeStep} (isOf : step.IsOf s)
    (now : Tm) : (node.perform step now).standing s = step.onStanding (node.standing s) := by
  cases step with
  | cache step =>
    cases step with
    | sessions op =>
      obtain rfl : op.sessionId = s := isOf
      cases op with
      | insertLocal id info parent dialect =>
        exact congrArg (SessionStanding.mk · (node.standing id).rows)
          (isSome_insertLocal node.caches.sessions id info parent dialect)
      | removeLocal id =>
        have removed := (removeLocal_cached node.caches.sessions id id).trans (if_pos rfl)
        exact congrArg (SessionStanding.mk · (node.standing id).rows)
          (congrArg Option.isSome removed)
    | rules op => rfl
    | send command => rfl
  | store statement =>
    refine (standing_enqueue node _ _).trans ?_
    rw [store_action? isOf now]
    rfl

/-- A step for another session changes nothing that is seen of this one. -/
theorem standing_perform_of_ne (node : CcrNodeState) {step : NodeStep} (isOf : step.IsOf s)
    (named : s ≠ "") {other : String} (ne : s ≠ other) (now : Tm) :
    (node.perform step now).standing other = node.standing other := by
  cases step with
  | cache step =>
    cases step with
    | sessions op =>
      have about : op.sessionId ≠ other := fun same => ne ((show op.sessionId = s from isOf) ▸ same)
      exact congrArg (SessionStanding.mk · (node.standing other).rows)
        (apply_cached_of_ne node.caches.sessions about)
    | rules op => rfl
    | send command => rfl
  | store statement =>
    refine (standing_enqueue node _ _).trans ?_
    rw [(store_isOf isOf named now).action?_eq_none ne]
    rfl

end Steps

/-! ### What a handler makes of its session -/

/-- All steps of the program are about the session, and together they make `f` of it. -/
structure Handles (s : String) (p : NodeProgram) (f : SessionStanding → SessionStanding) :
    Prop where
  all : p.All (NodeStep.IsOf s)
  leads : ∀ w, p.Leads NodeStep.onStanding w (f w)

section Programs

variable {s : String} {f g : SessionStanding → SessionStanding}

theorem handles_done : Handles s .done id := ⟨trivial, fun _ => rfl⟩

theorem handles_read {next : CcrNodeState → NodeProgram} (h : ∀ node, Handles s (next node) f) :
    Handles s (.read next) f :=
  ⟨fun node => (h node).all, fun w node => (h node).leads w⟩

theorem handles_makes {steps : List NodeStep} {next : NodeProgram}
    (isOf : ∀ step ∈ steps, step.IsOf s)
    (makes : ∀ w, steps.foldl NodeStep.onStanding w = f w) (h : Handles s next g) :
    Handles s (.makes steps next) (g ∘ f) where
  all := Program.all_makes isOf h.all
  leads w := by
    refine Program.leads_makes ?_
    rw [makes w]
    exact h.leads (f w)

theorem Handles.congr {p : NodeProgram} (h : Handles s p f) (same : ∀ w, f w = g w) :
    Handles s p g :=
  (funext same : f = g) ▸ h

end Programs

/-- The request for the session, as far as its standing depends on it. -/
structure SameRequest (data data' : ExtractedData) : Prop where
  sessionId : data'.sess.strSessionId = data.sess.strSessionId
  type : data'.req.iCCRequestType = data.req.iCCRequestType
  termCause : data'.sess.coTermCause = data.sess.coTermCause

section Requests

variable {data data' data'' : ExtractedData}

theorem SameRequest.trans (h : SameRequest data data') (h' : SameRequest data' data'') :
    SameRequest data data'' where
  sessionId := h'.sessionId.trans h.sessionId
  type := h'.type.trans h.type
  termCause := h'.termCause.trans h.termCause

theorem sameRequest_corrected (ccr : Ccr) : SameRequest ccr.data ccr.corrected where
  sessionId := corrected_sessionId ccr.data.msg
  type := by
    change ccr.data.msg.corrected.soReqInfo.iCCRequestType = _
    unfold SMsgDataForDB.corrected
    split <;> rfl
  termCause := rfl

/-- Completing a request from the cache keeps its session id, when it has one. -/
theorem sameRequest_fillFrom (named : data.sess.strSessionId ≠ "") (node : CcrNodeState)
    (cachedId : String) : SameRequest data (data.fillFrom node cachedId) := by
  have nonempty : data.sess.strSessionId.length ≠ 0 :=
    fun zero => named (String.length_eq_zero_iff.mp zero)
  constructor
  case sessionId =>
    change (data.msg.fillFrom node.caches.sessions cachedId).soSessInfo.strSessionId = _
    unfold SMsgDataForDB.fillFrom pcrfSessionCacheGet
    cases node.caches.sessions.umapSessionCache cachedId with
    | none => rfl
    | some record => exact if_neg nonempty
  case type =>
    change (data.msg.fillFrom node.caches.sessions cachedId).soReqInfo.iCCRequestType = _
    unfold SMsgDataForDB.fillFrom pcrfSessionCacheGet
    cases node.caches.sessions.umapSessionCache cachedId <;> rfl
  case termCause => rfl

variable {s : String} {f : SessionStanding → SessionStanding}

theorem handles_findCoreSess {address : String} {next : Option SSessionInfo → NodeProgram}
    (h : ∀ info, Handles s (next info) f) : Handles s (nodeFindCoreSess address next) f := by
  refine handles_read fun node => ?_
  split
  · exact handles_read fun node => h _
  · exact h none

/-- Whether there is a core session or not, the handler goes on with the same request. -/
theorem handles_coreSession {next : ExtractedData → Option String → Bool → NodeProgram}
    (named : data.sess.strSessionId ≠ "")
    (h : ∀ data' parent missing, SameRequest data data' →
      Handles s (next data' parent missing) f) :
    Handles s (nodeCoreSession data next) f := by
  have without (missing : Bool) : Handles s (next data none missing) f :=
    h data none missing ⟨rfl, rfl, rfl⟩
  have complete (sessionId : String) :
      Handles s (.read fun node => next (data.fillFrom node sessionId) (some sessionId) false) f :=
    handles_read fun node => h _ _ _ (sameRequest_fillFrom named node sessionId)
  unfold nodeCoreSession
  split
  · refine handles_findCoreSess fun info => ?_
    cases info with
    | none => exact without true
    | some core =>
      dsimp only
      split
      · exact complete core.strSessionId
      · exact without true
  · refine handles_findCoreSess fun info => ?_
    cases info with
    | none => exact without true
    | some core => exact complete core.strSessionId
  · exact without false

end Requests

/-! ### Groups of steps -/

section Groups

variable {env : CcrEnv} {s : String}

/-- Steps that touch neither the session cache nor the list make nothing of a session. -/
theorem foldl_onStanding_of_idle {steps : List NodeStep}
    (idle : ∀ step ∈ steps, ∀ w, NodeStep.onStanding w step = w) (w : SessionStanding) :
    steps.foldl NodeStep.onStanding w = w := by
  induction steps with
  | nil => rfl
  | cons step steps ih =>
    rw [List.foldl_cons, idle step List.mem_cons_self w]
    exact ih fun later mem => idle later (List.mem_cons_of_mem _ mem)

theorem rule_steps_idle {codes : IpcCodes} {rule : SqlStatement} {step : NodeStep}
    (mem : step ∈ (StoreStatement.rule rule).steps codes) :
    step.IsOf s ∧ ∀ w, NodeStep.onStanding w step = w := by
  rcases List.mem_append.mp mem with cache | store
  · obtain ⟨call, made, rfl⟩ := List.mem_map.mp cache
    have listed : call ∈ [rule].flatMap (SqlStatement.steps codes) :=
      List.mem_flatMap.mpr ⟨rule, List.mem_singleton_self rule, made⟩
    have kind := kind_statementSteps listed
    cases call with
    | sessions op => exact absurd rfl kind
    | rules op => exact ⟨trivial, fun _ => rfl⟩
    | send command => exact ⟨trivial, fun _ => rfl⟩
  · obtain rfl := List.mem_singleton.mp store
    exact ⟨trivial, fun _ => rfl⟩

/-- A statement that is not about rules is enqueued and nothing else. -/
theorem steps_isOf {codes : IpcCodes} {statement : StoreStatement}
    (own : statement.sessionId = some s) {step : NodeStep} (mem : step ∈ statement.steps codes) :
    step.IsOf s := by
  cases statement with
  | rule rule => exact (rule_steps_idle mem).1
  | insertSession sess => exact List.mem_singleton.mp mem ▸ own
  | updateSession id timeEnd timeLast termCause => exact List.mem_singleton.mp mem ▸ own
  | closeLocation id => exact List.mem_singleton.mp mem ▸ own
  | insertLocation id environment => exact List.mem_singleton.mp mem ▸ own

theorem foldl_steps (codes : IpcCodes) (statement : StoreStatement) (w : SessionStanding) :
    (statement.steps codes).foldl NodeStep.onStanding w =
      NodeStep.onStanding w (.store statement) := by
  cases statement with
  | rule rule =>
    exact foldl_onStanding_of_idle (fun step mem => (rule_steps_idle (s := "") mem).2) w
  | insertSession sess => rfl
  | updateSession id timeEnd timeLast termCause => rfl
  | closeLocation id => rfl
  | insertLocation id environment => rfl

/-- Statements make of the rows what their actions do. -/
theorem foldl_statements (codes : IpcCodes) (statements : List StoreStatement)
    (w : SessionStanding) :
    (statements.flatMap (StoreStatement.steps codes)).foldl NodeStep.onStanding w =
      { w with
        rows := replay StoreAction.onRows w.rows
          (statements.filterMap StoreStatement.action?) } := by
  induction statements generalizing w with
  | nil => rfl
  | cons statement statements ih =>
    rw [List.flatMap_cons, List.foldl_append, foldl_steps, ih, List.filterMap_cons]
    simp only [NodeStep.onStanding]
    cases statement.action? <;> rfl

/-- What a handler stores makes of the rows what the request should. -/
theorem foldl_writer (codes : IpcCodes) (writer : StoreWriter) (w : SessionStanding) :
    (writer.statements.flatMap (StoreStatement.steps codes)).foldl NodeStep.onStanding w =
      { w with rows := pushOrSet StoreWriter.appends StoreWriter.writes w.rows writer } := by
  rw [foldl_statements]
  have rows := (rows_replay writer.actions ⟨[], w.rows⟩).symm
  rw [replay_actions, rows_after] at rows
  exact congrArg (SessionStanding.mk w.cached) rows

theorem writer_isOf {codes : IpcCodes} {writer : StoreWriter} (own : writer.sessionId = s)
    {step : NodeStep} (mem : step ∈ writer.statements.flatMap (StoreStatement.steps codes)) :
    step.IsOf s := by
  obtain ⟨statement, stored, made⟩ := List.mem_flatMap.mp mem
  exact steps_isOf ((statements_sessionId writer stored).trans (congrArg some own)) made

/-- The same request appends and writes the same rows. -/
theorem pushOrSet_of_same {data data' : ExtractedData} (same : SameRequest data data') (now : Tm)
    (rows : List StoredRow) :
    pushOrSet StoreWriter.appends StoreWriter.writes rows (.request data' now) =
      pushOrSet StoreWriter.appends StoreWriter.writes rows (.request data now) := by
  have appends : (StoreWriter.request data' now).appends =
      (StoreWriter.request data now).appends := by
    rw [StoreWriter.appends, StoreWriter.isInitial, same.type]
    rfl
  have writes : (StoreWriter.request data' now).writes = (StoreWriter.request data now).writes := by
    simp only [StoreWriter.writes, same.type, same.termCause]
  rw [pushOrSet, pushOrSet, appends, writes]

/-- The insertion of the session itself. -/
theorem insert_isOf {info : SSessionInfo} {req : Option SRequestInfo} {parent : Option String}
    {step : NodeStep}
    (mem : step ∈ (pcrfSessionCacheInsert env.codes env.pcrfPeerDialectRet s info req parent).map
      NodeStep.cache) : step.IsOf s := by
  unfold pcrfSessionCacheInsert at mem
  split at mem
  · simp only [List.map_cons, List.map_nil, List.mem_cons, List.not_mem_nil, or_false] at mem
    rcases mem with rfl | rfl
    · trivial
    · rfl
  · cases mem

theorem foldl_insert (named : s ≠ "") (info : SSessionInfo) (req : Option SRequestInfo)
    (parent : Option String) (w : SessionStanding) :
    ((pcrfSessionCacheInsert env.codes env.pcrfPeerDialectRet s info req parent).map
      NodeStep.cache).foldl NodeStep.onStanding w = { w with cached := true } := by
  have nonempty : s.length ≠ 0 := fun zero => named (String.length_eq_zero_iff.mp zero)
  rw [pcrfSessionCacheInsert, if_pos nonempty]
  rfl

theorem remove_isOf {step : NodeStep}
    (mem : step ∈ (pcrfSessionCacheRemove env.codes s).map NodeStep.cache) : step.IsOf s := by
  simp only [pcrfSessionCacheRemove, List.map_cons, List.map_nil, List.mem_cons,
    List.not_mem_nil, or_false] at mem
  rcases mem with rfl | rfl | rfl
  · rfl
  · trivial
  · trivial

theorem foldl_remove (w : SessionStanding) :
    ((pcrfSessionCacheRemove env.codes s).map NodeStep.cache).foldl NodeStep.onStanding w =
      { w with cached := false } := rfl

end Groups

/-! ### The requests -/

/-- What is gathered for the request is what some run of the gathering returns. -/
def Ccr.GathersByRun (env : CcrEnv) (ccr : Ccr) : Prop :=
  ∀ msg vectActive, ∃ (call : GatherCall) (schedule : List Turn) (code : Int),
    call.gathered.uiActionSet = env.actionSet ccr ∧
      (call.machine.run schedule).returned = some code ∧
      ccr.gather msg vectActive = (call.machine.run schedule).gathered

/-- Whether a CCR-U caches its session. -/
def CcrEnv.keeps (env : CcrEnv) (ccr : Ccr) : Bool :=
  ccr.answers 0 && (env.actionSet ccr).updateSessioncache

namespace NodeRequest

/-- Whether the session is cached after this, when it matters. -/
def caches (env : CcrEnv) : NodeRequest → Option Bool
  | .ccr request =>
    match request.type with
    | .initialRequest => some true
    | .updateRequest => if env.keeps request then some true else none
    | .terminationRequest => some false
    | .other _ => none
  | .unknownSession _ => some false

/-- What is stored of it. -/
def writer : NodeRequest → StoreWriter
  | .ccr request => .request request.data request.now
  | .unknownSession sessionId => .staled sessionId

/-- The session as the request leaves it. -/
def after (env : CcrEnv) (standing : SessionStanding) (request : NodeRequest) :
    SessionStanding where
  cached := (request.caches env).getD standing.cached
  rows := pushOrSet StoreWriter.appends StoreWriter.writes standing.rows request.writer

/-- The session id ends in a number. -/
def Numbered (request : NodeRequest) : Prop := Pcrf.Numbered request.sessionId

/-- Gathering is what the handler does. -/
def GathersByRun (env : CcrEnv) : NodeRequest → Prop
  | .ccr request => request.GathersByRun env
  | .unknownSession _ => True

end NodeRequest

/-- What an answer makes of the session. -/
def CcrEnv.answered (env : CcrEnv) (ccr : Ccr) (w : SessionStanding) : SessionStanding :=
  if ccr.type = .updateRequest ∧ env.keeps ccr then { w with cached := true } else w

/-- What is stored of a request makes this of the session. -/
def Ccr.stored (ccr : Ccr) (w : SessionStanding) : SessionStanding where
  cached := w.cached
  rows := pushOrSet StoreWriter.appends StoreWriter.writes w.rows (NodeRequest.ccr ccr).writer

section Handlers

variable {env : CcrEnv} {ccr : Ccr} {data : ExtractedData}

/-- Storing is the same for all that the request becomes. -/
theorem handles_store (same : SameRequest ccr.data data) {next : NodeProgram}
    {g : SessionStanding → SessionStanding} (h : Handles ccr.sessionId next g) :
    Handles ccr.sessionId (.makes (data.storeSteps env.codes ccr.now) next)
      (g ∘ ccr.stored) := by
  have own : (StoreWriter.request data ccr.now).sessionId = ccr.sessionId := same.sessionId
  refine handles_makes (fun step mem => writer_isOf own mem) (fun w => ?_) h
  refine (foldl_writer ..).trans ?_
  rw [pushOrSet_of_same same]
  rfl

/-- Making the answer caches the session when the action set says so. -/
theorem handles_answer (same : SameRequest ccr.data data) (named : ccr.sessionId ≠ "")
    (parent : Option String) (vectActive : List SDBAbonRule) {gathered : Gathered}
    (bit : gathered.uiActionSet.updateSessioncache = (env.actionSet ccr).updateSessioncache) :
    Handles ccr.sessionId (.makes (env.answerSteps ccr data.msg parent vectActive gathered) .done)
      (env.answered ccr) := by
  have own : data.msg.soSessInfo.strSessionId = ccr.sessionId := same.sessionId
  have rules : ∀ statements : List SqlStatement, ∀ step ∈ statements.flatMap fun statement =>
      (StoreStatement.rule statement).steps env.codes,
      step.IsOf ccr.sessionId ∧ ∀ w, NodeStep.onStanding w step = w := by
    intro statements step mem
    obtain ⟨statement, -, made⟩ := List.mem_flatMap.mp mem
    exact rule_steps_idle made
  refine handles_makes (f := env.answered ccr) ?_ (fun w => ?_) handles_done
  · intro step mem
    unfold CcrEnv.answerSteps at mem
    split at mem
    · rcases List.mem_append.mp mem with inserted | issued
      · split at inserted
        · exact insert_isOf (own ▸ inserted)
        · cases inserted
      · exact (rules _ step issued).1
    · cases mem
  · rw [CcrEnv.answerSteps, CcrEnv.answered, CcrEnv.keeps, bit]
    cases made : ccr.answers 0 with
    | false => simp
    | true =>
      rw [if_pos rfl, List.foldl_append,
        foldl_onStanding_of_idle fun step mem => (rules _ step mem).2, Bool.true_and]
      split
      · rw [own]
        exact foldl_insert named ..
      · rfl

theorem gathered_updateSessioncache (gathers : ccr.GathersByRun env) (msg : SMsgDataForDB)
    (vectActive : List SDBAbonRule) :
    (ccr.gather msg vectActive).uiActionSet.updateSessioncache =
      (env.actionSet ccr).updateSessioncache := by
  obtain ⟨call, schedule, code, start, returned, gathered⟩ := gathers msg vectActive
  rw [gathered, returned_updateSessioncache returned, start]

/-- The request of which more is known, and its core session. -/
theorem handles_opening (gathers : ccr.GathersByRun env) (named : ccr.sessionId ≠ "")
    (type : ccr.type = .initialRequest) {known : ExtractedData}
    (same : SameRequest ccr.data known) (result : Bool → Nat) :
    Handles ccr.sessionId
      (nodeCoreSession known fun data parent missing =>
        .makes ((pcrfSessionCacheInsert env.codes env.pcrfPeerDialectRet data.sess.strSessionId
            data.sess.toSSessionInfo (some data.req.toSRequestInfo) parent).map NodeStep.cache ++
          data.storeSteps env.codes ccr.now) <|
          let gathered : Gathered :=
            if result missing = 2001 then ccr.gather data.msg []
            else { uiActionSet := env.actionSet ccr, mapMonitInfo := data.sess.mapMonitInfo }
          .makes (env.answerSteps ccr data.msg parent [] gathered) .done)
      ((NodeRequest.ccr ccr).after env) := by
  have named' : known.sess.strSessionId ≠ "" := same.sessionId ▸ named
  refine handles_coreSession named' fun data parent missing completed => ?_
  have same := same.trans completed
  have own : data.sess.strSessionId = ccr.sessionId := same.sessionId
  have bit : (if result missing = 2001 then ccr.gather data.msg [] else
      ({ uiActionSet := env.actionSet ccr, mapMonitInfo := data.sess.mapMonitInfo } :
        Gathered)).uiActionSet.updateSessioncache =
      (env.actionSet ccr).updateSessioncache := by
    split
    · exact gathered_updateSessioncache gathers ..
    · rfl
  rw [Program.makes_append, own]
  refine (handles_makes (fun step mem => insert_isOf mem) (foldl_insert named _ _ _)
    (handles_store same (handles_answer same named parent [] bit))).congr fun w => ?_
  simp [CcrEnv.answered, Ccr.stored, NodeRequest.after, NodeRequest.caches, type]

theorem handles_initial (gathers : ccr.GathersByRun env) (named : ccr.sessionId ≠ "")
    (type : ccr.type = .initialRequest) :
    Handles ccr.sessionId (env.initialHandler ccr) ((NodeRequest.ccr ccr).after env) := by
  have corrected := sameRequest_corrected ccr
  refine handles_opening gathers named type ?_
    (initialResultCode ccr.dbConnected ccr.corrected.sess.uiPeerDialect)
  split
  · exact ⟨corrected.sessionId, corrected.type, corrected.termCause⟩
  · exact corrected

theorem handles_update (gathers : ccr.GathersByRun env) (named : ccr.sessionId ≠ "")
    (type : ccr.type = .updateRequest) :
    Handles ccr.sessionId (env.updateHandler ccr) ((NodeRequest.ccr ccr).after env) := by
  have corrected := sameRequest_corrected ccr
  have named' : ccr.corrected.sess.strSessionId ≠ "" := corrected.sessionId ▸ named
  refine handles_read fun node => ?_
  have filled := corrected.trans (sameRequest_fillFrom named' node ccr.corrected.sess.strSessionId)
  refine handles_coreSession (filled.sessionId ▸ named) fun data parent missing completed => ?_
  have same := filled.trans completed
  have answer (vectActive : List SDBAbonRule) {gathered : Gathered}
      (bit : gathered.uiActionSet.updateSessioncache =
        (env.actionSet ccr).updateSessioncache) :=
    handles_answer same named parent vectActive bit
  have stored {next : NodeProgram} (h : Handles ccr.sessionId next (env.answered ccr)) :
      Handles ccr.sessionId (.makes (data.storeSteps env.codes ccr.now) next)
        ((NodeRequest.ccr ccr).after env) := by
    refine (handles_store same h).congr fun w => ?_
    simp only [Function.comp_apply, CcrEnv.answered, Ccr.stored, NodeRequest.after,
      NodeRequest.caches, type, true_and]
    split <;> rfl
  refine stored ?_
  dsimp only
  split
  · split
    · exact handles_read fun node => answer _ (gathered_updateSessioncache gathers ..)
    · exact answer [] (gathered_updateSessioncache gathers ..)
  · exact answer [] rfl

theorem handles_termination (named : ccr.sessionId ≠ "")
    (type : ccr.type = .terminationRequest) :
    Handles ccr.sessionId (env.terminationHandler ccr) ((NodeRequest.ccr ccr).after env) := by
  have corrected := sameRequest_corrected ccr
  have named' : ccr.corrected.sess.strSessionId ≠ "" := corrected.sessionId ▸ named
  have finish {data : ExtractedData} (same : SameRequest ccr.data data) :
      Handles ccr.sessionId
        (.makes ((pcrfSessionCacheRemove env.codes data.sess.strSessionId).map NodeStep.cache ++
          data.storeSteps env.codes ccr.now) .done) ((NodeRequest.ccr ccr).after env) := by
    have own : data.sess.strSessionId = ccr.sessionId := same.sessionId
    rw [Program.makes_append, own]
    refine (handles_makes (fun step mem => remove_isOf mem) foldl_remove
      (handles_store same handles_done)).congr fun w => ?_
    simp [Ccr.stored, NodeRequest.after, NodeRequest.caches, type]
  unfold CcrEnv.terminationHandler
  dsimp only
  split
  · exact handles_read fun node => finish (corrected.trans (sameRequest_fillFrom named' node _))
  · exact finish corrected

theorem handles_ccr (gathers : ccr.GathersByRun env) (named : ccr.sessionId ≠ "") :
    Handles ccr.sessionId (env.ccrHandler ccr) ((NodeRequest.ccr ccr).after env) := by
  unfold CcrEnv.ccrHandler
  split
  next type => exact handles_initial gathers named type
  next type => exact handles_update gathers named type
  next type => exact handles_termination named type
  next code type =>
    refine (handles_store (sameRequest_corrected ccr) handles_done).congr fun w => ?_
    simp [Ccr.stored, NodeRequest.after, NodeRequest.caches, type]

/-- A session that its peer does not know. -/
theorem handles_unknownSession (s : String) :
    Handles s (env.unknownSessionHandler s) ((NodeRequest.unknownSession s).after env) := by
  unfold CcrEnv.unknownSessionHandler
  rw [Program.makes_append]
  have own : (StoreWriter.staled s).sessionId = s := rfl
  exact (handles_makes (fun step mem => writer_isOf own mem)
    (foldl_writer env.codes (.staled s))
    (handles_makes (fun step mem => remove_isOf mem) foldl_remove handles_done)).congr fun _ => rfl

end Handlers

/-! ### Runs -/

/-- What else is enqueued is not about the list, and of a pass nothing fails. -/
def NodeOther.Quiet : NodeOther → Prop
  | .enqueue request _ => request.Unrelated
  | .pass _ answers => answers.Succeed

instance : DecidablePred NodeOther.Quiet
  | .enqueue request _ => inferInstanceAs (Decidable request.Unrelated)
  | .pass _ answers => inferInstanceAs (Decidable answers.Succeed)

instance : DecidablePred NodeRequest.Numbered := fun request =>
  inferInstanceAs (Decidable (Numbered request.sessionId))

/-- The handlers of a session make of it what its requests should. -/
theorem service_follows (env : CcrEnv) :
    env.service.Follows (fun request => request.Numbered ∧ request.GathersByRun env)
      NodeOther.Quiet (fun s step => Numbered s ∧ step.IsOf s) CcrNodeState.standing
      NodeStep.onStanding (NodeRequest.after env) := by
  have handles (request : NodeRequest) (admitted : request.Numbered ∧ request.GathersByRun env) :
      Handles request.sessionId (env.service.program request) (request.after env) := by
    cases request with
    | ccr ccr => exact handles_ccr admitted.2 (numbered_ne_empty admitted.1)
    | unknownSession s => exact handles_unknownSession s
  constructor
  case all =>
    intro request admitted
    exact Program.all_and (handles request admitted).all admitted.1
  case leads => exact fun request w admitted => (handles request admitted).leads w
  case mine => exact fun s node step now own => standing_perform_self node own.2 now
  case others =>
    exact fun s other node step now own ne =>
      standing_perform_of_ne node own.2 (numbered_ne_empty own.1) ne now
  case background =>
    intro s node o quiet
    cases o with
    | enqueue request sessionId =>
      have unrelated : request.Unrelated := quiet
      refine (standing_enqueue node _ _).trans ?_
      rw [unrelated.action? s]
      rfl
    | pass index answers =>
      have same : (node.sql.pass index answers).sqlQueues.requests =
          node.sql.sqlQueues.requests := congrArg (List.map EnqueueCall.request) (pass_calls ..)
      simp only [CcrEnv.service, CcrNodeState.other, CcrNodeState.standing, same]

/-- What is enqueued is about the session under whose id it was, in every run. -/
theorem run_ccrNode_ok {env : CcrEnv} {iDBPoolSize : Int32} {start : SqlQueues SqlParam}
    (init : pcrfSqlQueueInit SqlParam iDBPoolSize = some start) (caches : NodeCaches)
    {ops : List (ServingOp NodeRequest Tm NodeOther)}
    (regular : (env.service.machine ⟨caches, { sqlQueues := start }⟩).Meets
      (env.service.Regular (fun request => request.Numbered ∧ request.GathersByRun env)
        NodeOther.Quiet) ops) :
    let node := ((env.service.machine ⟨caches, { sqlQueues := start }⟩).run ops).state
    node.sql.Ok start.queueCount ∧ node.sql.BySession := by
  refine Service.state_inv (I := fun node => node.sql.Ok start.queueCount ∧ node.sql.BySession)
    (service_follows env) _ ⟨sqlNode_init_ok init, bySession_init init⟩ ?_ ?_ regular
  · rintro s node step now ⟨ok, bySession⟩ ⟨numbered, isOf⟩
    cases step with
    | cache step => exact ⟨ok, bySession⟩
    | store statement =>
      have about := store_isOf isOf (numbered_ne_empty numbered) now
      exact ⟨sqlNode_enqueue_ok ok about.valid _,
        bySession_enqueue bySession (store_bySession isOf numbered now)⟩
  · rintro node o ⟨ok, bySession⟩ quiet
    cases o with
    | enqueue request sessionId =>
      have unrelated : request.Unrelated := quiet
      exact ⟨sqlNode_enqueue_ok ok unrelated.valid _, bySession_enqueue bySession (.inl unrelated)⟩
    | pass index answers =>
      exact ⟨sqlNode_pass_ok ok index quiet, bySession_pass bySession index answers⟩

end Pcrf
