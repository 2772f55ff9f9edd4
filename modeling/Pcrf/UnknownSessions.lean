import Pcrf.CcrTermination
import Pcrf.CreditControlRules
import Pcrf.RefreshTurns
import Pcrf.StalledSessions

/-!
Updates of sessions that the node does not know. The handler asks for such a session to be
aborted; the refreshing thread learns from the session cache where to send the request.
-/

namespace Pcrf

open Lib CallM

/-! ### The handler -/

/-- What a CCR-U leaves when nothing goes on beside it: the caches, and the queue of refreshes
with the entry that it adds for a session of an UGW or Ericsson it has not found. -/
def CcrEnv.handleUpdate (env : CcrEnv) (update : CcrUpdate) (caches : NodeCaches)
    (queue : LocalRefreshQueue) : NodeCaches × LocalRefreshQueue :=
  let sessInfo := update.request.soSessInfo
  let sessNotFound := (pcrfSessionCacheGet caches.sessions sessInfo.strSessionId none none).isNone
  ((env.updateProgram update).alone NodeCaches.perform caches,
    if sessInfo.uiPeerDialect.isIPCAN && sessNotFound then
      pcrfLocalRefreshQueueAdd queue 0 sessInfo.strSessionId (some "session_id")
        (some "abort_session")
    else queue)

/-- What is gathered for the update is what some run of the gathering returns. -/
def CcrUpdate.GathersByRun (env : CcrEnv) (update : CcrUpdate) : Prop :=
  ∀ vectActive, ∃ (call : GatherCall) (schedule : List Turn) (code : Int),
    call.gathered.uiActionSet = pcrfServerDetermineActionSet env.isProceraUsed update.request ∧
      (call.machine.run schedule).returned = some code ∧
      update.gather update.request vectActive = (call.machine.run schedule).gathered

/-- An update keeps the session cache up to date when one of its triggers is RAT_CHANGE,
SGSN_CHANGE or USER_LOCATION_CHANGE. -/
theorem updateSessioncache_iff (isProceraUsed : Bool) (msg : SMsgDataForDB) :
    (pcrfServerDetermineActionSet isProceraUsed msg).updateSessioncache = true ↔
      ∃ trigger ∈ msg.soReqInfo.vectEventTrigger, trigger = 2 ∨ trigger = 0 ∨ trigger = 13 := by
  have hStep (set : ActionSet) (trigger : Int32) :
      (set.onTrigger msg.soSessInfo.uiPeerDialect isProceraUsed trigger).updateSessioncache =
        true ↔ set.updateSessioncache = true ∨ trigger = 2 ∨ trigger = 0 ∨ trigger = 13 := by
    unfold ActionSet.onTrigger
    split
    next hRat => simp [hRat]
    next hRat =>
      split
      next hPlace => simp [hPlace]
      next hPlace =>
        -- no other trigger touches the bit
        rw [not_or] at hPlace
        simp only [hRat, hPlace.1, hPlace.2, or_false]
        repeat' split
        all_goals rfl
  have hSet : (pcrfServerDetermineActionSet isProceraUsed msg).updateSessioncache =
      (msg.soReqInfo.vectEventTrigger.foldl
        (ActionSet.onTrigger msg.soSessInfo.uiPeerDialect isProceraUsed) {}).updateSessioncache :=
    rfl
  rw [hSet, foldl_onTrigger_iff hStep]
  simp

/-- Submitting usage does not change whether the session cache is brought up to date. -/
theorem updateQuota_updateSessioncache (db : DbConnection) (offline : Bool) (d : WorkerData) :
    (d.updateQuota db offline).gathered.uiActionSet.updateSessioncache =
      d.gathered.uiActionSet.updateSessioncache := by
  simp only [WorkerData.updateQuota]
  split
  · rfl
  · split <;> rfl

theorem collected_updateSessioncache (call : GatherCall) :
    call.collected.uiActionSet.updateSessioncache =
      call.gathered.uiActionSet.updateSessioncache := by
  simp only [GatherCall.collected, GatherCall.expected]
  split
  · rfl
  · simp only [GatherCall.dataAt]
    rw [(loadQuota_listAbonRules ..).2, markActive_actionSet, loadRules_actionSet,
      updateQuota_updateSessioncache]
    rfl

/-- Nor does gathering as a whole. -/
theorem returned_updateSessioncache {call : GatherCall} {schedule : List Turn} {code : Int}
    (h : (call.machine.run schedule).returned = some code) :
    (call.machine.run schedule).gathered.uiActionSet.updateSessioncache =
      call.gathered.uiActionSet.updateSessioncache := by
  by_cases hZero : code = 0
  · rw [hZero] at h
    rw [returned_zero h]
    exact collected_updateSessioncache call
  · rcases returned_nonzero h hZero with hFalls | ⟨-, hSame⟩
    · rw [hFalls.uiActionSet]
    · rw [hSame]

/-! ### The caches after the handler -/

theorem performSessions_append (first second : List CallStep) (sessions : SessionCacheState) :
    performSessions (first ++ second) sessions =
      performSessions second (performSessions first sessions) :=
  List.foldl_append ..

/-- Steps of which none is one on the session cache leave it as it is. -/
theorem performSessions_of_other {steps : List CallStep} (h : ∀ step ∈ steps, step.kind ≠ .sessions)
    (sessions : SessionCacheState) : performSessions steps sessions = sessions := by
  induction steps with
  | nil => rfl
  | cons step steps ih =>
    have hFirst := h step List.mem_cons_self
    have hRest := ih fun next hNext => h next (List.mem_cons_of_mem _ hNext)
    cases step with
    | sessions op => exact absurd rfl hFirst
    | rules op => exact hRest
    | send command => exact hRest

/-- The record that an update of an unknown session is kept under, and where. -/
def insertUnknown (env : CcrEnv) (msg : SMsgDataForDB) (sessions : SessionCacheState) :
    SessionCacheState :=
  pcrfSessionCacheInsertLocal sessions msg.soSessInfo.strSessionId
    (sessionCacheRecord msg.soSessInfo (some msg.soReqInfo)) none
    (env.pcrfPeerDialectRet msg.soSessInfo.coOriginHost.v msg.soSessInfo.coOriginRealm.v)

section

variable {env : CcrEnv} {update : CcrUpdate} {caches : NodeCaches}

theorem fillFrom_of_unknown {msg : SMsgDataForDB} {sessions : SessionCacheState}
    {sessionId : String} (h : sessions.umapSessionCache sessionId = none) :
    msg.fillFrom sessions sessionId = msg := by
  simp only [SMsgDataForDB.fillFrom, pcrfSessionCacheGet, h, Option.map_none]

/-- The handler of an unknown session: it closes the rules that are reported, gathers and
answers. -/
theorem updateProgram_of_unknown (env : CcrEnv)
    (hDialect : update.request.soSessInfo.uiPeerDialect.isIPCAN = true)
    (hUnknown : caches.sessions.umapSessionCache update.request.soSessInfo.strSessionId = none) :
    ∃ vectActive, (env.updateProgram update).alone NodeCaches.perform caches =
      (update.request.policySteps env.codes ++
        update.answerSteps env update.request none vectActive
          (update.gather update.request vectActive)).foldl NodeCaches.perform caches := by
  have hSce : update.request.soSessInfo.uiPeerDialect ≠ .gxCiscoSce := by
    intro hEq
    rw [hEq] at hDialect
    exact absurd hDialect (by decide)
  have hCorrected : update.request.corrected = update.request := if_neg hSce
  -- only a Cisco SCE or a Procera session has a core session
  have hCore : ∀ (msg : SMsgDataForDB) (next : SMsgDataForDB → Option String → Bool → CcrProgram),
      msg.soSessInfo.uiPeerDialect.isIPCAN = true → coreSession msg next = next msg none true := by
    intro msg next hIPCAN
    unfold coreSession
    cases hPeer : msg.soSessInfo.uiPeerDialect <;> simp_all [PeerDialect.isIPCAN]
  unfold CcrEnv.updateProgram
  simp only [hCorrected, Program.alone, fillFrom_of_unknown hUnknown, hCore _ _ hDialect, hDialect,
    Bool.or_true, Bool.and_true, if_true, Program.alone_makes, List.foldl_append]
  split
  next =>
    refine ⟨pcrfSessionRuleCacheGet ((update.request.policySteps env.codes).foldl
      NodeCaches.perform caches).rules update.request.soSessInfo.strSessionId, ?_⟩
    simp only [Program.alone, Program.alone_makes]
  next =>
    refine ⟨[], ?_⟩
    simp only [Program.alone, Program.alone_makes]

/-- What an update of an unknown session makes of the session cache. -/
theorem handleUpdate_sessions (queue : LocalRefreshQueue)
    (hDialect : update.request.soSessInfo.uiPeerDialect.isIPCAN = true)
    (hUnknown : caches.sessions.umapSessionCache update.request.soSessInfo.strSessionId = none)
    (hGather : update.GathersByRun env) :
    (env.handleUpdate update caches queue).1.sessions =
      if update.answers 0 = true ∧
          (pcrfServerDetermineActionSet env.isProceraUsed update.request).updateSessioncache =
            true ∧ update.request.soSessInfo.strSessionId.length ≠ 0 then
        insertUnknown env update.request caches.sessions
      else caches.sessions := by
  obtain ⟨vectActive, hProgram⟩ := updateProgram_of_unknown env hDialect hUnknown
  obtain ⟨call, schedule, code, hSet, hReturned, hGathered⟩ := hGather vectActive
  -- gathering does not touch the bit that lets the record be stored
  have hBit : (update.gather update.request vectActive).uiActionSet.updateSessioncache =
      (pcrfServerDetermineActionSet env.isProceraUsed update.request).updateSessioncache := by
    rw [hGathered, returned_updateSessioncache hReturned, hSet]
  unfold CcrEnv.handleUpdate
  simp only [hProgram, foldl_perform, performSessions_append,
    performSessions_of_other fun _ => kind_policySteps]
  unfold CcrUpdate.answerSteps
  rw [hBit]
  -- no answer, no bit or no session id: nothing is stored
  by_cases hAnswer : update.answers 0 = true
  · rw [if_pos hAnswer, performSessions_append,
      performSessions_of_other fun _ => kind_statementSteps]
    by_cases hKeep :
        (pcrfServerDetermineActionSet env.isProceraUsed update.request).updateSessioncache = true
    · rw [if_pos hKeep]
      unfold pcrfSessionCacheInsert
      by_cases hId : update.request.soSessInfo.strSessionId.length ≠ 0
      · rw [if_pos hId, if_pos ⟨hAnswer, hKeep, hId⟩]
        rfl
      · rw [if_neg hId, if_neg fun h => hId h.2.2]
        rfl
    · rw [if_neg hKeep, if_neg fun h => hKeep h.2.1]
      rfl
  · rw [if_neg hAnswer, if_neg fun h => hAnswer h.1]
    rfl

end

/-! ### The request to release a session -/

/-- The calls with which a request that asks for a release is made and sent. -/
def releaseCalls : Nat := 24

/-- Such a request is made by calls, and sent by the last of them. -/
theorem makes_gxRarWSRCause (sessInfo : SSessionInfo) :
    Makes (fun st : AnswerState => st.sent) releaseCalls
      (fun st => { st with answer := [], sent := st.sent ++ [rarOf sessInfo (some 0) []] })
      (pcrfClientGxRarWSRCause sessInfo) := by
  have hMessage : Makes (fun st : AnswerState => st.sent) 1
      (fun st => { st with answer := [] }) newMessage :=
    Makes.call.bind (fun _ => rfl) (Makes.update fun st : AnswerState => { st with answer := [] })
  have hNew : Makes (fun st : AnswerState => st.sent) 20
      (fun st => { st with answer := [] }) newRar :=
    hMessage.bind (fun _ => rfl) (Makes.calls 19)
  have hSend : Makes (fun st : AnswerState => st.sent) 1
      (fun st => { st with sent := st.sent ++ [rarOf sessInfo (some 0) st.answer] })
      (sendRar sessInfo (some 0)) :=
    Makes.call.bind (fun _ => rfl) (Makes.update fun st : AnswerState =>
      { st with sent := st.sent ++ [rarOf sessInfo (some 0) st.answer] })
  exact hNew.bind (fun _ => rfl) ((Makes.calls 3).bind (fun _ => rfl) hSend)

/-- Building and sending it is tolerated to fail; then nothing is sent. -/
theorem send_release_sent (sessInfo : SSessionInfo) (st : RefreshState) :
    (st.send (pcrfClientGxRarWSRCause sessInfo)).sent =
      if st.answering.Succeed releaseCalls then st.sent ++ [rarOf sessInfo (some 0) []]
      else st.sent := by
  have hMakes := makes_gxRarWSRCause sessInfo
  unfold RefreshState.send RefreshState.sent
  rw [exec_tolerate]
  split
  next h => rw [hMakes.succeeds _ h]
  next h => exact (hMakes.fails _ h).2

/-! ### Processing the entry -/

/-- What a refresh right after the update finds. -/
def refreshEnvAfter (sessions : SessionCacheState) (vectPeerList : List SPeerInfo)
    (ruleCache : RuleCache) (pcoDBConn : Option RefreshDb) : RefreshEnv where
  sessionCache := sessions
  vectPeerList
  ruleCache
  pcoDBConn

/-- The update queues an entry for its session, and processing the entry right after it sends
one request, which asks the peer of the session to release it. -/
def AbortReleases (env : CcrEnv) (update : CcrUpdate) (caches : NodeCaches)
    (queue : LocalRefreshQueue) (vectPeerList : List SPeerInfo) (ruleCache : RuleCache)
    (pcoDBConn : Option RefreshDb) (s : Answering AnswerState) : Prop :=
  let sessInfo := update.request.soSessInfo
  let after := env.handleUpdate update caches queue
  let refresh := refreshEnvAfter after.1.sessions vectPeerList ruleCache pcoDBConn
  after.2 = pcrfLocalRefreshQueueAdd queue 0 sessInfo.strSessionId (some "session_id")
      (some "abort_session") ∧
    ∃ rar : RarMessage, rar.sessionId = sessInfo.strSessionId ∧
      rar.destHost = sessInfo.coOriginHost.v ∧ rar.destRealm = sessInfo.coOriginRealm.v ∧
      rar.sessionReleaseCause.isSome = true ∧
      (pcrfClientOperateRefqueueRecord refresh (abortEntry sessInfo.strSessionId).2 s).2.sent =
        s.state.sent ++ [rar]

section

variable {env : RefreshEnv} {sessionId : String} {s : Answering AnswerState}

/-- Processing an entry that aborts a session is the turn of this one session. -/
theorem operateRefqueueRecord_abort (env : RefreshEnv) (sessionId : String)
    (s : Answering AnswerState) :
    (pcrfClientOperateRefqueueRecord env (abortEntry sessionId).2 s).2 =
      (env.refreshSession (abortEntry sessionId).2 0 sessionId { answering := s }).2 := by
  have hList : pcrfClientDbLoadSessionList env (abortEntry sessionId).2 = (0, [sessionId]) := rfl
  have hRecord : pcrfClientOperateRefqueueRecord env (abortEntry sessionId).2 s =
      env.refreshSessions (abortEntry sessionId).2 0 [sessionId] { answering := s } := by
    unfold pcrfClientOperateRefqueueRecord
    rw [hList]
    rfl
  rw [hRecord, refreshSessions_cons]
  split <;> rfl

theorem abort_unknown_sent (h : env.sessionCache.umapSessionCache sessionId = none) :
    (pcrfClientOperateRefqueueRecord env (abortEntry sessionId).2 s).2.sent = s.state.sent := by
  have hLoad : env.loadSession sessionId = none := by
    simp [RefreshEnv.loadSession, SMsgDataForDB.fromCache, pcrfSessionCacheGet, h]
  rw [operateRefqueueRecord_abort]
  simp only [RefreshEnv.refreshSession, hLoad]
  rfl

/-- A cached session of a connected UGW or Ericsson is asked to be released. -/
theorem abort_cached_sent {record : SSessionCache} {peer : SPeerInfo}
    (hRecord : env.sessionCache.umapSessionCache sessionId = some record)
    (hPeer : findPeer env.vectPeerList record.coOriginHost.v record.coOriginRealm.v = some peer)
    (hDialect : peer.uiPeerDialect.isIPCAN = true) (hConn : peer.iIsConnected ≠ 0) :
    ∃ sessInfo : SSessionInfo, sessInfo.strSessionId = sessionId ∧
      sessInfo.coOriginHost = record.coOriginHost ∧
      sessInfo.coOriginRealm = record.coOriginRealm ∧
      (pcrfClientOperateRefqueueRecord env (abortEntry sessionId).2 s).2.sent =
        if s.Succeed releaseCalls then s.state.sent ++ [rarOf sessInfo (some 0) []]
        else s.state.sent := by
  -- what is read of the session: its record, and the dialect of its peer
  let filled := SSessionInfo.fillFrom { strSessionId := sessionId } sessionId record
  let sessInfo : SSessionInfo := { filled with uiPeerDialect := peer.uiPeerDialect }
  have hProcera : sessInfo.uiPeerDialect ≠ .gxProcera := ne_procera_of_isIPCAN hDialect
  have hFound : pcrfPeerDialect env.vectPeerList filled = some sessInfo := by
    have hAt : findPeer env.vectPeerList filled.coOriginHost.v filled.coOriginRealm.v =
        some peer := hPeer
    simp only [pcrfPeerDialect, hAt]
    rfl
  have hLoad : env.loadSession sessionId =
      some { soSessInfo := sessInfo, soReqInfo := SRequestInfo.fillFrom {} record } := by
    simp only [RefreshEnv.loadSession, SMsgDataForDB.fromCache, pcrfSessionCacheGet, hRecord]
    simp only [Option.map_some, Option.bind_eq_bind, Option.bind_some]
    rw [hFound]
    simp only [Option.bind_some]
    rw [if_neg hProcera]
  have hConnected : pcrfPeerIsConnected env.vectPeerList sessInfo ≠ 0 := by
    have hAt : findPeer env.vectPeerList sessInfo.coOriginHost.v sessInfo.coOriginRealm.v =
        some peer := hPeer
    simp only [pcrfPeerIsConnected, hAt]
    exact hConn
  have hAborts : (abortEntry sessionId).2.abortsSession = true := rfl
  refine ⟨sessInfo, ?_, rfl, rfl, ?_⟩
  · have hId : filled.strSessionId = sessionId := ite_self sessionId
    exact hId
  · rw [operateRefqueueRecord_abort]
    simp only [RefreshEnv.refreshSession, hLoad, if_neg hConnected, hAborts, if_true]
    exact send_release_sent sessInfo { answering := s }

end

section Update

variable {env : CcrEnv} {update : CcrUpdate} {caches : NodeCaches} {queue : LocalRefreshQueue}
  {vectPeerList : List SPeerInfo} {peer : SPeerInfo} {ruleCache : RuleCache}
  {pcoDBConn : Option RefreshDb} {s : Answering AnswerState}

theorem handleUpdate_queued (hIPCAN : update.request.soSessInfo.uiPeerDialect.isIPCAN = true)
    (hUnknown : caches.sessions.umapSessionCache update.request.soSessInfo.strSessionId = none) :
    (env.handleUpdate update caches queue).2 =
      pcrfLocalRefreshQueueAdd queue 0 update.request.soSessInfo.strSessionId
        (some "session_id") (some "abort_session") := by
  simp only [CcrEnv.handleUpdate, hIPCAN, pcrfSessionCacheGet, hUnknown, Option.map_none]
  rfl

/-- An update that has brought the session into the cache leads to a release, if the calls for
the request succeed. -/
theorem abortReleases_of_inserted
    (hPeer : findPeer vectPeerList update.request.soSessInfo.coOriginHost.v
      update.request.soSessInfo.coOriginRealm.v = some peer)
    (hDialect : peer.uiPeerDialect.isIPCAN = true) (hConn : peer.iIsConnected ≠ 0)
    (hUnknown : caches.sessions.umapSessionCache update.request.soSessInfo.strSessionId = none)
    (hQueued : (env.handleUpdate update caches queue).2 =
      pcrfLocalRefreshQueueAdd queue 0 update.request.soSessInfo.strSessionId
        (some "session_id") (some "abort_session"))
    (hSessions : (env.handleUpdate update caches queue).1.sessions =
      insertUnknown env update.request caches.sessions) :
    AbortReleases env update caches queue vectPeerList ruleCache pcoDBConn s ↔
      s.Succeed releaseCalls := by
  have hRecord : (refreshEnvAfter (env.handleUpdate update caches queue).1.sessions vectPeerList
      ruleCache pcoDBConn).sessionCache.umapSessionCache
        update.request.soSessInfo.strSessionId =
      some (sessionCacheRecord update.request.soSessInfo (some update.request.soReqInfo)) := by
    simp only [refreshEnvAfter, hSessions, insertUnknown, pcrfSessionCacheInsertLocal, hUnknown]
    exact Store.set_self ..
  -- the refresh finds the record that the update has just inserted
  obtain ⟨sessInfo, hId, hHost, hRealm, hSent⟩ :=
    abort_cached_sent (s := s) hRecord hPeer hDialect hConn
  unfold AbortReleases
  simp only [hQueued, true_and]
  rw [hSent]
  constructor
  · rintro ⟨rar, -, -, -, -, hNew⟩
    -- without the calls nothing is added to what was sent
    by_contra hFails
    rw [if_neg hFails] at hNew
    exact List.cons_ne_nil rar [] (List.self_eq_append_right.mp hNew)
  · intro hSucceed
    rw [if_pos hSucceed]
    refine ⟨rarOf sessInfo (some 0) [], hId, ?_, ?_, rfl, rfl⟩
    · exact congrArg OtlValue.v hHost
    · exact congrArg OtlValue.v hRealm

/-- Otherwise the refresh finds no session, and nothing tells it where to send the request. -/
theorem not_abortReleases_of_kept
    (hUnknown : caches.sessions.umapSessionCache update.request.soSessInfo.strSessionId = none)
    (hSessions : (env.handleUpdate update caches queue).1.sessions = caches.sessions) :
    ¬ AbortReleases env update caches queue vectPeerList ruleCache pcoDBConn s := by
  have hNone : (refreshEnvAfter (env.handleUpdate update caches queue).1.sessions vectPeerList
      ruleCache pcoDBConn).sessionCache.umapSessionCache
        update.request.soSessInfo.strSessionId = none := by
    rw [hSessions]
    exact hUnknown
  rintro ⟨-, rar, -, -, -, -, hNew⟩
  rw [abort_unknown_sent hNone] at hNew
  exact List.cons_ne_nil rar [] (List.self_eq_append_right.mp hNew)

end Update

/-- For a session that is not cached, of a connected UGW or Ericsson, the entry leads to a release
exactly when the update itself has brought the session into the cache before, and the calls for
the request succeed. -/
theorem abortReleases_iff {env : CcrEnv} {update : CcrUpdate} {caches : NodeCaches}
    {vectPeerList : List SPeerInfo} {peer : SPeerInfo} (queue : LocalRefreshQueue)
    (ruleCache : RuleCache) (pcoDBConn : Option RefreshDb) (s : Answering AnswerState)
    (hPeer : findPeer vectPeerList update.request.soSessInfo.coOriginHost.v
      update.request.soSessInfo.coOriginRealm.v = some peer)
    (hOwn : update.request.soSessInfo.uiPeerDialect = peer.uiPeerDialect)
    (hDialect : peer.uiPeerDialect.isIPCAN = true) (hConn : peer.iIsConnected ≠ 0)
    (hUnknown : caches.sessions.umapSessionCache update.request.soSessInfo.strSessionId = none)
    (hGather : update.GathersByRun env) :
    AbortReleases env update caches queue vectPeerList ruleCache pcoDBConn s ↔
      (∃ trigger ∈ update.request.soReqInfo.vectEventTrigger,
        trigger = 2 ∨ trigger = 0 ∨ trigger = 13) ∧
      update.request.soSessInfo.strSessionId.length ≠ 0 ∧ update.answers 0 = true ∧
      s.Succeed releaseCalls := by
  have hIPCAN : update.request.soSessInfo.uiPeerDialect.isIPCAN = true := hOwn ▸ hDialect
  have hSessions := handleUpdate_sessions queue hIPCAN hUnknown hGather
  have hQueued : (env.handleUpdate update caches queue).2 =
      pcrfLocalRefreshQueueAdd queue 0 update.request.soSessInfo.strSessionId
        (some "session_id") (some "abort_session") := handleUpdate_queued hIPCAN hUnknown
  rw [← updateSessioncache_iff env.isProceraUsed]
  by_cases hInsert : update.answers 0 = true ∧
      (pcrfServerDetermineActionSet env.isProceraUsed update.request).updateSessioncache = true ∧
      update.request.soSessInfo.strSessionId.length ≠ 0
  · rw [if_pos hInsert] at hSessions
    rw [abortReleases_of_inserted hPeer hDialect hConn hUnknown hQueued hSessions]
    exact ⟨fun hSucceed => ⟨hInsert.2.1, hInsert.2.2, hInsert.1, hSucceed⟩,
      fun hAll => hAll.2.2.2⟩
  · rw [if_neg hInsert] at hSessions
    have hNot : ¬ AbortReleases env update caches queue vectPeerList ruleCache pcoDBConn s :=
      not_abortReleases_of_kept hUnknown hSessions
    refine ⟨fun h => absurd h hNot, ?_⟩
    rintro ⟨hTrigger, hId, hAnswer, -⟩
    exact absurd ⟨hAnswer, hTrigger, hId⟩ hInsert

/-! ### Two updates -/

/-- A connected UGW. -/
def connectedUgw : SPeerInfo where
  coHostName := .of "ugw"
  coHostReal := .of "net"
  uiPeerDialect := .gxHwUgw
  iIsConnected := 1

/-- The gathering for an update when no slot is free for a worker. -/
def busyCall (msg : SMsgDataForDB) (vectActive : List SDBAbonRule) : GatherCall :=
  let call := msg.gatherCall (pcrfServerDetermineActionSet false msg)
    { uiMaxCCRHandlers := 0, ruleCache := .empty, pcoDBConn := none } Store.empty
  { call with soData.vectActive := vectActive }

/-- An update of a session of this UGW, with the given triggers. -/
def ugwUpdate (vectEventTrigger : List Int32) : CcrUpdate where
  request :=
    { soSessInfo :=
        { uiPeerDialect := .gxHwUgw, strSessionId := "gx;1;1", coOriginHost := .of "ugw"
          coOriginRealm := .of "net" }
      soReqInfo := { iCCRequestType := .updateRequest, vectEventTrigger } }
  gather := fun msg vectActive =>
    ((busyCall msg vectActive).machine.run [.handler, .handler, .handler]).gathered

/-- The handlers of a node without other nodes. -/
def loneCcrEnv : CcrEnv where
  codes := sampleCodes
  pcrfPeerDialectRet := pcrfPeerDialectRet [connectedUgw]

theorem ugwUpdate_gathersByRun (triggers : List Int32) :
    (ugwUpdate triggers).GathersByRun loneCcrEnv := by
  intro vectActive
  exact ⟨busyCall (ugwUpdate triggers).request vectActive, [.handler, .handler, .handler], 16,
    rfl, rfl, rfl⟩

/-- What an update with the given triggers leads to when no call fails. -/
def UgwReleased (triggers : List Int32) : Prop :=
  AbortReleases loneCcrEnv (ugwUpdate triggers) ⟨{}, Store.empty⟩ Multimap.empty [connectedUgw]
    .empty none { answers := fun _ => true, state := {} }

/-- A session whose location has changed is brought into the cache, and released. -/
theorem location_change_releases : UgwReleased [13] :=
  (abortReleases_iff Multimap.empty .empty none _ (show findPeer [connectedUgw] "ugw" "net" =
    some connectedUgw by decide) rfl rfl (by decide) rfl (ugwUpdate_gathersByRun [13])).mpr
    ⟨by decide, by decide, rfl, fun _ _ => rfl⟩

/-- Without a trigger nothing is sent. -/
theorem untriggered_not_released : ¬ UgwReleased [] := by
  rintro ⟨-, rar, -, -, -, -, hSent⟩
  have hNone : (refreshEnvAfter (loneCcrEnv.handleUpdate (ugwUpdate []) ⟨{}, Store.empty⟩
      Multimap.empty).1.sessions [connectedUgw] .empty none).sessionCache.umapSessionCache
        "gx;1;1" = none := by
    decide
  have hUnknown := abort_unknown_sent (s := { answers := fun _ => true, state := {} }) hNone
  exact List.cons_ne_nil rar [] (List.self_eq_append_right.mp (hUnknown.symm.trans hSent))

end Pcrf
