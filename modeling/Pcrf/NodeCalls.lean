import Pcrf.IpcRequest
import Pcrf.SessionRemoval
import Pcrf.Lib.Traces

/-!
The calls that change the caches of a node, step by step: each update of a cache is made under
the mutex of that cache, and nothing is held while a command is sent to the other nodes.
-/

namespace Pcrf

open Lib

/-- One call on the rule cache, with the arguments its callers may pass. -/
inductive RuleCacheOp where
  | insertLocal (sessionId ruleName : String)
  | removeRuleLocal (sessionId ruleName : String)
  | removeSessLocal (sessionId : String)
  deriving DecidableEq

def SessionRuleCache.apply (mapSessRuleLst : SessionRuleCache) : RuleCacheOp → SessionRuleCache
  | .insertLocal sessionId ruleName =>
    pcrfSessionRuleCacheInsertLocal mapSessRuleLst sessionId ruleName
  | .removeRuleLocal sessionId ruleName =>
    pcrfSessionRuleCacheRemoveRuleLocal mapSessRuleLst sessionId ruleName
  | .removeSessLocal sessionId => pcrfSessionRuleCacheRemoveSessLocal mapSessRuleLst sessionId

/-- The session whose list an operation changes. -/
def RuleCacheOp.sessionId : RuleCacheOp → String
  | insertLocal sessionId _ | removeRuleLocal sessionId _ | removeSessLocal sessionId => sessionId

/-- What an operation makes of the list of its session. -/
def RuleCacheOp.entry : RuleCacheOp → Option (List String) → Option (List String)
  | insertLocal _ ruleName, names => some (names.getD [] ++ [ruleName])
  | removeRuleLocal _ ruleName, names => names.map fun names => names.filter (· ≠ ruleName)
  | removeSessLocal _, _ => none

/-- An operation changes the list of its session only, and looks at no other. -/
theorem SessionRuleCache.apply_eq (mapSessRuleLst : SessionRuleCache) (op : RuleCacheOp) :
    mapSessRuleLst.apply op =
      Function.update mapSessRuleLst op.sessionId (op.entry (mapSessRuleLst op.sessionId)) := by
  cases op with
  | insertLocal sessionId ruleName =>
    cases h : mapSessRuleLst sessionId <;>
      simp [SessionRuleCache.apply, pcrfSessionRuleCacheInsertLocal, Index.push, Store.set,
        RuleCacheOp.sessionId, RuleCacheOp.entry, h]
  | removeRuleLocal sessionId ruleName =>
    cases h : mapSessRuleLst sessionId with
    | none =>
      -- a session without a list stays without one
      rw [RuleCacheOp.sessionId, h, RuleCacheOp.entry, Option.map_none, ← h,
        Function.update_eq_self]
      simp [SessionRuleCache.apply, pcrfSessionRuleCacheRemoveRuleLocal, Index.purge, h]
    | some names =>
      simp [SessionRuleCache.apply, pcrfSessionRuleCacheRemoveRuleLocal, Index.purge, Store.set,
        RuleCacheOp.sessionId, RuleCacheOp.entry, h]
  | removeSessLocal sessionId => rfl

/-- Operations on the lists of different sessions commute. -/
theorem RuleCacheOp.commutes_of_ne {a b : RuleCacheOp} (h : a.sessionId ≠ b.sessionId) :
    Commutes (SessionRuleCache.apply · a) (SessionRuleCache.apply · b) := by
  intro mapSessRuleLst
  simp only [SessionRuleCache.apply_eq, Function.update_of_ne h, Function.update_of_ne h.symm]
  exact Function.update_comm h.symm ..

/-- The arguments of `pcrf_ipc_cmd2remote`. -/
structure IpcCommand where
  sessionId : String
  sessionInfo : Option SSessionCache := none
  cmdType : UInt16
  optionalParam : Option String := none
  deriving DecidableEq

deriving instance DecidableEq for CacheOp

/-- One step of a call. -/
inductive CallStep where
  | sessions (op : CacheOp)
  | rules (op : RuleCacheOp)
  | send (command : IpcCommand)
  deriving DecidableEq

/-- The session that a step is about. -/
def CallStep.sessionId : CallStep → String
  | sessions op => op.sessionId
  | rules op => op.sessionId
  | send command => command.sessionId

/-- Which of the three a step is. -/
inductive StepKind where
  | sessions
  | rules
  | send
  deriving Repr, DecidableEq

def CallStep.kind : CallStep → StepKind
  | sessions _ => .sessions
  | rules _ => .rules
  | send _ => .send

/-- The record that `pcrf_session_cache_insert` keeps of a session. -/
def sessionCacheRecord (sessionInfo : SSessionInfo) (requestInfo : Option SRequestInfo) :
    SSessionCache :=
  let record : SSessionCache :=
    { coSubscriberId := .of sessionInfo.strSubscriberId
      coFramedIPAddr := sessionInfo.coFramedIPAddress
      coCalledStationId := sessionInfo.coCalledStationId
      coOriginHost := sessionInfo.coOriginHost
      coOriginRealm := sessionInfo.coOriginRealm
      coIMEISV := sessionInfo.coIMEI
      coEndUserIMSI := sessionInfo.soSubscriptionData.coEndUserIMSI
      coEndUserE164 := sessionInfo.soSubscriptionData.coEndUserE164 }
  match requestInfo with
  | some requestInfo =>
    let env := requestInfo.soUserEnvironment
    { record with
      coIPCANType := env.coIPCANType
      iIPCANType := env.iIPCANType
      coSGSNMCCMNC := env.coSGSNMCCMNC
      coSGSNIPAddr := env.coSGSNAddress
      coRATType := env.coRATType
      iRATType := env.iRATType
      coCGI := env.soUsrLoc.coCGI
      coECGI := env.soUsrLoc.coECGI
      coTAI := env.soUsrLoc.coTAI }
  | none => record

/-- The calls of the request handlers. -/
inductive CacheCall where
  | sessionCacheInsert (sessionId : String) (sessionInfo : SSessionInfo)
      (requestInfo : Option SRequestInfo) (parentSessionId : Option String)
  | sessionCacheRemove (sessionId : String)
  | sessionRuleCacheInsert (sessionId ruleName : String)
  | sessionRuleCacheRemoveRule (sessionId ruleName : String)
  deriving DecidableEq

section Steps

variable (codes : IpcCodes) (pcrfPeerDialectRet : String → String → PeerDialect)

/-- `pcrf_session_cache_insert` -/
def pcrfSessionCacheInsert (sessionId : String) (sessionInfo : SSessionInfo)
    (requestInfo : Option SRequestInfo) (parentSessionId : Option String) : List CallStep :=
  if sessionId.length ≠ 0 then
    let record := sessionCacheRecord sessionInfo requestInfo
    let dialect := pcrfPeerDialectRet sessionInfo.coOriginHost.v sessionInfo.coOriginRealm.v
    -- sent first, inserted after that
    [.send ⟨sessionId, some record, codes.PCRF_CMD_INSERT_SESSION, parentSessionId⟩,
     .sessions (.insertLocal sessionId record parentSessionId dialect)]
  else []

/-- `pcrf_session_cache_remove` -/
def pcrfSessionCacheRemove (sessionId : String) : List CallStep :=
  -- the other way round than the insertion
  [.sessions (.removeLocal sessionId), .rules (.removeSessLocal sessionId),
   .send ⟨sessionId, none, codes.PCRF_CMD_REMOVE_SESSION, none⟩]

/-- `pcrf_session_rule_cache_insert` -/
def sessionRuleCacheInsertSteps (sessionId ruleName : String) : List CallStep :=
  if 0 < sessionId.length ∧ 0 < ruleName.length then
    [.rules (.insertLocal sessionId ruleName),
     .send ⟨sessionId, none, codes.PCRF_CMD_INSERT_SESSRUL, some ruleName⟩]
  else []

/-- `pcrf_session_rule_cache_remove_rule` -/
def sessionRuleCacheRemoveRuleSteps (sessionId ruleName : String) : List CallStep :=
  if 0 < sessionId.length ∧ 0 < ruleName.length then
    [.rules (.removeRuleLocal sessionId ruleName),
     .send ⟨sessionId, none, codes.PCRF_CMD_REMOVE_SESSRUL, some ruleName⟩]
  else []

def CacheCall.steps : CacheCall → List CallStep
  | sessionCacheInsert sessionId sessionInfo requestInfo parentSessionId =>
    pcrfSessionCacheInsert codes pcrfPeerDialectRet sessionId sessionInfo requestInfo
      parentSessionId
  | sessionCacheRemove sessionId => pcrfSessionCacheRemove codes sessionId
  | sessionRuleCacheInsert sessionId ruleName =>
    sessionRuleCacheInsertSteps codes sessionId ruleName
  | sessionRuleCacheRemoveRule sessionId ruleName =>
    sessionRuleCacheRemoveRuleSteps codes sessionId ruleName

/-- No call makes two steps of one kind. -/
theorem kinds_steps_nodup (call : CacheCall) :
    ((call.steps codes pcrfPeerDialectRet).map CallStep.kind).Nodup := by
  cases call with
  | sessionCacheInsert =>
    simp only [CacheCall.steps, pcrfSessionCacheInsert]
    split <;> simp [CallStep.kind]
  | sessionCacheRemove => exact (by decide : [StepKind.sessions, .rules, .send].Nodup)
  | sessionRuleCacheInsert =>
    simp only [CacheCall.steps, sessionRuleCacheInsertSteps]
    split <;> simp [CallStep.kind]
  | sessionRuleCacheRemoveRule =>
    simp only [CacheCall.steps, sessionRuleCacheRemoveRuleSteps]
    split <;> simp [CallStep.kind]

/-- The command of a call. -/
def CacheCall.command : CacheCall → IpcCommand
  | sessionCacheInsert sessionId sessionInfo requestInfo parentSessionId =>
    ⟨sessionId, some (sessionCacheRecord sessionInfo requestInfo), codes.PCRF_CMD_INSERT_SESSION,
      parentSessionId⟩
  | sessionCacheRemove sessionId => ⟨sessionId, none, codes.PCRF_CMD_REMOVE_SESSION, none⟩
  | sessionRuleCacheInsert sessionId ruleName =>
    ⟨sessionId, none, codes.PCRF_CMD_INSERT_SESSRUL, some ruleName⟩
  | sessionRuleCacheRemoveRule sessionId ruleName =>
    ⟨sessionId, none, codes.PCRF_CMD_REMOVE_SESSRUL, some ruleName⟩

/-- A call sends its own command only. -/
theorem command_eq_of_send {call : CacheCall} {command : IpcCommand}
    (h : .send command ∈ call.steps codes pcrfPeerDialectRet) : command = call.command codes := by
  cases call with
  | sessionCacheInsert =>
    simp only [CacheCall.steps, pcrfSessionCacheInsert] at h
    split at h
    · simpa [CacheCall.command] using h
    · cases h
  | sessionCacheRemove => simpa [CacheCall.steps, pcrfSessionCacheRemove, CacheCall.command] using h
  | sessionRuleCacheInsert =>
    simp only [CacheCall.steps, sessionRuleCacheInsertSteps] at h
    split at h
    · simpa [CacheCall.command] using h
    · cases h
  | sessionRuleCacheRemoveRule =>
    simp only [CacheCall.steps, sessionRuleCacheRemoveRuleSteps] at h
    split at h
    · simpa [CacheCall.command] using h
    · cases h

/-- A call that changes anything sends a command. -/
theorem send_mem_kinds {call : CacheCall} {kind : StepKind}
    (h : kind ∈ (call.steps codes pcrfPeerDialectRet).map CallStep.kind) :
    .send ∈ (call.steps codes pcrfPeerDialectRet).map CallStep.kind := by
  cases call with
  | sessionCacheInsert =>
    simp only [CacheCall.steps, pcrfSessionCacheInsert] at h ⊢
    split at h
    · simp [*, CallStep.kind]
    · cases h
  | sessionCacheRemove => simp [CacheCall.steps, pcrfSessionCacheRemove, CallStep.kind]
  | sessionRuleCacheInsert =>
    simp only [CacheCall.steps, sessionRuleCacheInsertSteps] at h ⊢
    split at h
    · simp [*, CallStep.kind]
    · cases h
  | sessionRuleCacheRemoveRule =>
    simp only [CacheCall.steps, sessionRuleCacheRemoveRuleSteps] at h ⊢
    split at h
    · simp [*, CallStep.kind]
    · cases h

end Steps

/-! ### What a step does to the caches -/

/-- A step that sends a command leaves the caches as they are. -/
def NodeCaches.perform (caches : NodeCaches) : CallStep → NodeCaches
  | .sessions op => { caches with sessions := caches.sessions.apply op }
  | .rules op => { caches with rules := caches.rules.apply op }
  | .send _ => caches

/-- What steps do to the session cache. -/
def performSessions (steps : List CallStep) (sessions : SessionCacheState) : SessionCacheState :=
  steps.foldl (fun sessions step => match step with
    | .sessions op => sessions.apply op
    | _ => sessions) sessions

/-- What steps do to the rule cache. -/
def performRules (steps : List CallStep) (rules : SessionRuleCache) : SessionRuleCache :=
  steps.foldl (fun rules step => match step with
    | .rules op => rules.apply op
    | _ => rules) rules

/-- The two caches are changed independently of each other. -/
theorem foldl_perform (steps : List CallStep) (caches : NodeCaches) :
    steps.foldl NodeCaches.perform caches =
      ⟨performSessions steps caches.sessions, performRules steps caches.rules⟩ := by
  induction steps generalizing caches with
  | nil => rfl
  | cons step steps ih =>
    rw [List.foldl_cons, ih]
    cases step <;> rfl

/-! ### Whether a session is cached -/

/-- The session is in neither cache. -/
def NodeCaches.Lacks (caches : NodeCaches) (sessionId : String) : Prop :=
  caches.sessions.umapSessionCache sessionId = none ∧ caches.rules sessionId = none

/-- A step about another session does not bring a session into the session cache. -/
theorem perform_cached_of_ne {caches : NodeCaches} {step : CallStep} {x : String}
    (h : step.sessionId ≠ x) (none_cached : caches.sessions.umapSessionCache x = none) :
    (caches.perform step).sessions.umapSessionCache x = none := by
  cases step with
  | sessions op =>
    have same := apply_cached_of_ne caches.sessions h
    rw [none_cached] at same
    exact Option.isNone_iff_eq_none.mp (Option.isSome_eq_false_iff.mp same)
  | rules op => exact none_cached
  | send command => exact none_cached

/-- Nor does it give it a list of rules. -/
theorem perform_lacks_of_ne {caches : NodeCaches} {step : CallStep} {x : String}
    (h : step.sessionId ≠ x) (lacks : caches.Lacks x) : (caches.perform step).Lacks x := by
  refine ⟨perform_cached_of_ne h lacks.1, ?_⟩
  cases step with
  | sessions op => exact lacks.2
  | rules op =>
    exact (congrFun (SessionRuleCache.apply_eq ..) x).trans
      ((Function.update_of_ne (Ne.symm h) ..).trans lacks.2)
  | send command => exact lacks.2

/-- When the last steps about a session are those of its removal, it is in neither cache. -/
theorem foldl_lacks {steps before : List CallStep} {x : String}
    (h : steps.filter (fun step => step.sessionId = x) =
      before ++ [.sessions (.removeLocal x), .rules (.removeSessLocal x)]) (caches : NodeCaches) :
    (steps.foldl NodeCaches.perform caches).Lacks x := by
  -- where the two removals are among the steps; behind them none is about `x`
  obtain ⟨l₁, l₂, rfl, -, h⟩ := List.filter_eq_append_iff.mp h
  obtain ⟨m₁, m₂, rfl, -, -, h⟩ := List.filter_eq_cons_iff.mp h
  obtain ⟨m₃, m₄, rfl, between, -, h⟩ := List.filter_eq_cons_iff.mp h
  have after := List.filter_eq_nil_iff.mp h
  simp only [decide_eq_true_eq] at between after
  simp only [List.foldl_append, List.foldl_cons]
  generalize m₁.foldl NodeCaches.perform (l₁.foldl NodeCaches.perform caches) = caches
  have removed : (caches.perform (.sessions (.removeLocal x))).sessions.umapSessionCache x =
      none := by
    refine (removeLocal_cached caches.sessions x x).trans (if_pos rfl)
  generalize caches.perform (.sessions (.removeLocal x)) = caches at removed
  -- the steps between the two removals are about other sessions
  have kept : (m₃.foldl NodeCaches.perform caches).sessions.umapSessionCache x = none :=
    List.foldlRecOn (motive := fun c : NodeCaches => c.sessions.umapSessionCache x = none) m₃ _
      removed fun _ h step mem => perform_cached_of_ne (between step mem) h
  generalize m₃.foldl NodeCaches.perform caches = caches at kept
  have lacks : (caches.perform (.rules (.removeSessLocal x))).Lacks x :=
    ⟨kept, Store.erase_self ..⟩
  exact List.foldlRecOn (motive := fun c : NodeCaches => c.Lacks x) m₄ _ lacks
    fun _ h step mem => perform_lacks_of_ne (after step mem) h

end Pcrf
