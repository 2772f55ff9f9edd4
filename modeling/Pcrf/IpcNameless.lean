import Pcrf.IpcMalformed
import Pcrf.IpcOperator

/-!
Commands without a session id. Together with the lengths of `Pcrf.IpcMalformed` they decide what
a node makes of a run of datagrams.
-/

namespace Pcrf

open Lib

/-! ### Sessions without an id -/

/-- No key of the caches is empty, and no session without an id is linked to a parent. -/
def NodeCaches.Nameless (caches : NodeCaches) : Prop :=
  caches.Lacks "" ∧ caches.sessions.links.mapChild "" = none

section Keys

variable {caches : NodeCaches}

theorem nameless_start : NodeCaches.Nameless {} := ⟨⟨rfl, rfl⟩, rfl⟩

theorem mkLink2parent_child_of_ne {sessionId x : String} (h : sessionId ≠ x)
    (links : SessionLinks) (parentSessionId : Option String) :
    (pcrfSessionCacheMkLink2parent links sessionId parentSessionId).mapChild x =
      links.mapChild x := by
  have hSet : ∀ parent, (links.mapChild.set sessionId parent) x = links.mapChild x :=
    fun parent => Store.set_of_ne (Ne.symm h) ..
  unfold pcrfSessionCacheMkLink2parent
  cases parentSessionId with
  | none => rfl
  | some parent =>
    cases links.mapChild sessionId with
    | none => exact hSet parent
    | some previous =>
      simp only
      split
      · rfl
      · exact hSet parent

/-- A removal links no session to a parent. -/
theorem removeLink_child_none {links : SessionLinks} {x : String} (h : links.mapChild x = none)
    (sessionId : String) : (pcrfSessionCacheRemoveLink links sessionId).mapChild x = none := by
  unfold pcrfSessionCacheRemoveLink
  cases links.mapParent sessionId with
  | some children =>
    simp only [eraseChildren_apply, h]
    split <;> rfl
  | none =>
    cases links.mapChild sessionId with
    | some parent =>
      simp only [Store.erase_apply, h]
      split <;> rfl
    | none => exact h

/-- A step about another session, or a removal, brings in no session without an id. -/
theorem perform_nameless {step : CallStep} (h : caches.Nameless)
    (other : step.sessionId ≠ "" ∨
      (∃ x, step = .sessions (.removeLocal x)) ∨ (∃ x, step = .rules (.removeSessLocal x))) :
    (caches.perform step).Nameless := by
  obtain ⟨hLacks, hChild⟩ := h
  rcases other with hOther | ⟨x, rfl⟩ | ⟨x, rfl⟩
  · -- a step about another session writes nothing under the empty key
    refine ⟨perform_lacks_of_ne hOther hLacks, ?_⟩
    cases step with
    | sessions op =>
      cases op with
      | insertLocal sessionId info parent dialect =>
        simp only [NodeCaches.perform, SessionCacheState.apply, insertLocal_links]
        split
        · exact hChild
        · exact (mkLink2parent_child_of_ne hOther ..).trans hChild
      | removeLocal sessionId =>
        simp only [NodeCaches.perform, SessionCacheState.apply, removeLocal_links]
        exact removeLink_child_none hChild sessionId
    | rules op => exact hChild
    | send command => exact hChild
  · refine ⟨⟨?_, hLacks.2⟩, ?_⟩
    · refine (removeLocal_cached caches.sessions x "").trans ?_
      split
      · rfl
      · exact hLacks.1
    · simp only [NodeCaches.perform, SessionCacheState.apply, removeLocal_links]
      exact removeLink_child_none hChild x
  · refine ⟨⟨hLacks.1, ?_⟩, hChild⟩
    refine (Store.erase_apply caches.rules x "").trans ?_
    split
    · rfl
    · exact hLacks.2

theorem foldl_nameless {steps : List CallStep} (h : caches.Nameless)
    (other : ∀ step ∈ steps, step.sessionId ≠ "" ∨
      (∃ x, step = .sessions (.removeLocal x)) ∨ (∃ x, step = .rules (.removeSessLocal x))) :
    (steps.foldl NodeCaches.perform caches).Nameless :=
  List.foldlRecOn (motive := NodeCaches.Nameless) steps _ h
    fun _ hNext step mem => perform_nameless hNext (other step mem)

/-- A step of a call that is made under a condition. -/
theorem mem_guarded {guard : Prop} [Decidable guard] {first second step : CallStep}
    (h : step ∈ if guard then [first, second] else []) :
    guard ∧ (step = first ∨ step = second) := by
  split at h
  next holds =>
    simp only [List.mem_cons, List.not_mem_nil, or_false] at h
    exact ⟨holds, h⟩
  next => cases h

/-- The calls of the node itself check that the session id is not empty, except for a removal. -/
theorem own_step {codes : IpcCodes} {pcrfPeerDialectRet : String → String → PeerDialect}
    {call : CacheCall} {step : CallStep} (h : step ∈ call.steps codes pcrfPeerDialectRet)
    (keeps : caches.Nameless) : (caches.perform step).Nameless := by
  have named : ∀ sessionId : String, 0 < sessionId.length → sessionId ≠ "" := by
    rintro sessionId hLength rfl
    exact absurd hLength (by decide)
  -- each call looks at the length of the id before its first update, a removal apart
  cases call with
  | sessionCacheInsert sessionId =>
    obtain ⟨hLength, rfl | rfl⟩ := mem_guarded h
    · exact keeps
    · exact perform_nameless keeps (.inl (named sessionId (Nat.pos_of_ne_zero hLength)))
  | sessionCacheRemove sessionId =>
    simp only [CacheCall.steps, pcrfSessionCacheRemove, List.mem_cons, List.not_mem_nil,
      or_false] at h
    rcases h with rfl | rfl | rfl
    · exact perform_nameless keeps (.inr (.inl ⟨sessionId, rfl⟩))
    · exact perform_nameless keeps (.inr (.inr ⟨sessionId, rfl⟩))
    · exact keeps
  | sessionRuleCacheInsert sessionId ruleName =>
    obtain ⟨hLength, rfl | rfl⟩ := mem_guarded h
    · exact perform_nameless keeps (.inl (named sessionId hLength.1))
    · exact keeps
  | sessionRuleCacheRemoveRule sessionId ruleName =>
    obtain ⟨hLength, rfl | rfl⟩ := mem_guarded h
    · exact perform_nameless keeps (.inl (named sessionId hLength.1))
    · exact keeps

end Keys

/-! ### Commands -/

/-- Some attribute gives a session id that is not empty. -/
def GivesSessionId (codes : IpcCodes) (attrs : List SPSReqAttr) : Prop :=
  ∃ attr ∈ attrs, ∃ data, attr.Gives codes .sessionId data ∧ data ≠ []

/-- Some attribute gives a rule name. -/
def GivesRuleName (codes : IpcCodes) (attrs : List SPSReqAttr) : Prop :=
  ∃ attr ∈ attrs, ∃ data, attr.Gives codes .ruleName data

/-- The command inserts a session or a rule, or removes one. -/
def IpcCodes.Changes (codes : IpcCodes) (uiReqType : UInt16) : Prop :=
  uiReqType = codes.PCRF_CMD_INSERT_SESSION ∨ uiReqType = codes.PCRF_CMD_REMOVE_SESSION ∨
    uiReqType = codes.PCRF_CMD_INSERT_SESSRUL ∨ uiReqType = codes.PCRF_CMD_REMOVE_SESSRUL

section Command

variable (env : IpcEnv) {caches : NodeCaches} {req : IpcRequest} {uiReqType : UInt16}

theorem sessionId_ipcSteps {step : CallStep} (h : step ∈ ipcSteps env uiReqType req) :
    step.sessionId = req.strSessionId := by
  have hAll : ∀ step ∈ ipcSteps env uiReqType req, step.sessionId = req.strSessionId := by
    unfold ipcSteps
    cases req.pstrRuleName <;> repeat' split
    all_goals simp [CallStep.sessionId, CacheOp.sessionId, RuleCacheOp.sessionId]
  exact hAll step h

/-- A command for a session with an id brings in none without. -/
theorem command_named (hId : req.strSessionId.length ≠ 0) (h : caches.Nameless) :
    (ipcCommand env.codes env.pcrfPeerDialectRet caches uiReqType req).Nameless := by
  rw [← foldl_ipcSteps]
  refine foldl_nameless h fun step hStep => .inl ?_
  rw [sessionId_ipcSteps env hStep]
  rintro hEmpty
  exact hId (by rw [hEmpty]; rfl)

/-- The other commands leave the caches as they are. -/
theorem command_other (h : ¬ env.codes.Changes uiReqType) :
    ipcCommand env.codes env.pcrfPeerDialectRet caches uiReqType req = caches := by
  simp only [IpcCodes.Changes, not_or] at h
  simp only [ipcCommand, h.1, h.2.1, h.2.2.1, h.2.2.2, if_false]

/-- Nothing is removed for a session without an id, unless others are linked to it. -/
theorem removeLocal_nameless (h : caches.Nameless) :
    (pcrfSessionCacheRemoveLocal caches.sessions "").1 = caches.sessions ↔
      caches.sessions.links.mapParent "" = none := by
  obtain ⟨⟨hCache, -⟩, hChild⟩ := h
  unfold pcrfSessionCacheRemoveLocal
  simp only [hCache]
  have hLinks : ({ caches.sessions with
      links := pcrfSessionCacheRemoveLink caches.sessions.links "" } : SessionCacheState) =
        caches.sessions ↔
      pcrfSessionCacheRemoveLink caches.sessions.links "" = caches.sessions.links := by
    constructor
    · intro same
      exact congrArg SessionCacheState.links same
    · intro same
      rw [same]
  rw [hLinks]
  unfold pcrfSessionCacheRemoveLink
  cases hParent : caches.sessions.links.mapParent "" with
  | none => simp [hChild]
  | some children =>
    refine ⟨fun same => ?_, fun hNone => nomatch hNone⟩
    -- the list of the children would have been erased
    have hErased := congrArg (fun links => links.mapParent "") same
    simp only [Store.erase_self, hParent] at hErased
    cases hErased

/-- What a command without a session id leaves as it is. -/
theorem command_unchanged_iff (h : caches.Nameless) (hId : req.strSessionId.length = 0) :
    ipcCommand env.codes env.pcrfPeerDialectRet caches uiReqType req = caches ↔
      uiReqType ≠ env.codes.PCRF_CMD_INSERT_SESSION ∧
      (uiReqType = env.codes.PCRF_CMD_REMOVE_SESSION →
        caches.sessions.links.mapParent "" = none) ∧
      (uiReqType = env.codes.PCRF_CMD_INSERT_SESSRUL → ¬ req.pstrRuleName.isSome = true) := by
  have hEmpty : req.strSessionId = "" := String.length_eq_zero_iff.mp hId
  have distinct := env.codes.cmds_nodup
  simp only [List.nodup_cons, List.mem_cons, List.not_mem_nil, or_false, not_or] at distinct
  obtain ⟨⟨hInsRem, hInsRul, -⟩, ⟨hRemRul, -⟩, -⟩ := distinct
  unfold ipcCommand
  simp only [hEmpty]
  by_cases hInsert : uiReqType = env.codes.PCRF_CMD_INSERT_SESSION
  · rw [if_pos hInsert]
    refine ⟨fun same => ?_, fun hNot => absurd hInsert hNot.1⟩
    -- the record would be under the empty key
    have hSet := congrArg (fun caches => caches.sessions.umapSessionCache "") same
    simp only [pcrfSessionCacheInsertLocal, h.1.1, Store.set_self] at hSet
    cases hSet
  · rw [if_neg hInsert]
    by_cases hRemove : uiReqType = env.codes.PCRF_CMD_REMOVE_SESSION
    · rw [if_pos hRemove]
      have hRules : pcrfSessionRuleCacheRemoveSessLocal caches.rules "" = caches.rules := by
        refine Function.update_eq_self_iff.mpr ?_
        exact h.1.2.symm
      rw [hRules, ← removeLocal_nameless h]
      constructor
      · intro same
        refine ⟨hInsert, fun _ => congrArg NodeCaches.sessions same, fun hRule => ?_⟩
        exact absurd (hRemove.symm.trans hRule) hRemRul
      · rintro ⟨-, same, -⟩
        rw [same hRemove]
    · rw [if_neg hRemove]
      by_cases hRule : uiReqType = env.codes.PCRF_CMD_INSERT_SESSRUL
      · rw [if_pos hRule]
        cases hName : req.pstrRuleName with
        | none => simp [hInsert, hRemove]
        | some ruleName =>
          refine ⟨fun same => ?_, fun hNot => absurd rfl (hNot.2.2 hRule)⟩
          have hPushed := congrArg (fun caches => caches.rules "") same
          simp only [pcrfSessionRuleCacheInsertLocal, Index.push, h.1.2, Store.set_self] at hPushed
          cases hPushed
      · rw [if_neg hRule]
        constructor
        · intro _
          exact ⟨hInsert, fun h => absurd h hRemove, fun h => absurd h hRule⟩
        · -- the cache of rules has nothing under the empty key
          intro _
          split
          · cases req.pstrRuleName with
            | none => rfl
            | some ruleName =>
              simp only [pcrfSessionRuleCacheRemoveRuleLocal, Index.purge, h.1.2]
          · rfl

end Command

/-! ### A node that takes datagrams -/

/-- What happens on a node: a datagram comes, and `malloc` finds `fresh` while it is processed, or
a call of the node itself makes a step. -/
inductive NodeEvent (env : IpcEnv) where
  | datagram (bytes : List Char) (fresh : Nat → Nat → Char)
  | step (call : CacheCall) (step : CallStep)
      (mem : step ∈ call.steps env.codes env.pcrfPeerDialectRet)

section Node

variable (env : IpcEnv)

/-- `pcrf_ipc_process_request`, with the parsing of the datagram. -/
def IpcEnv.processRequest (fresh : Nat → Nat → Char) (caches : NodeCaches) (bytes : List Char) :
    Except IpcFault NodeCaches :=
  match env.parse bytes with
  | some (uiReqType, attrs) =>
    (ipcReadAttrs env.codes fresh attrs).map
      (ipcCommand env.codes env.pcrfPeerDialectRet caches uiReqType)
  | none => .ok caches

def IpcEnv.next (caches : NodeCaches) : NodeEvent env → Except IpcFault NodeCaches
  | .datagram bytes fresh => env.processRequest fresh caches bytes
  | .step _ step _ => .ok (caches.perform step)

/-- The datagram is processed to the end, without an empty key in the caches: every attribute is
used rightly or ignored, and a command without a session id changes nothing. -/
def IpcEnv.Processes (fresh : Nat → Nat → Char) (caches : NodeCaches) (bytes : List Char) : Prop :=
  ∃ after, env.processRequest fresh caches bytes = .ok after ∧ after.Lacks "" ∧
    ∀ uiReqType attrs, env.parse bytes = some (uiReqType, attrs) →
      UsesAllRightly env.codes fresh {} attrs ∧
      (env.codes.Changes uiReqType → ¬ GivesSessionId env.codes attrs → after = caches)

/-- No key of the caches is empty after an event, and a datagram is processed. -/
def IpcEnv.Handles (caches : NodeCaches) : NodeEvent env → Prop
  | .datagram bytes fresh => env.Processes fresh caches bytes
  | .step _ step _ => (caches.perform step).Lacks ""

/-- The lengths in a datagram fit, and a command without a session id has nothing to insert, and
finds no session that is linked to an empty id. -/
def IpcEnv.Fits (caches : NodeCaches) : NodeEvent env → Prop
  | .datagram bytes fresh => ∀ uiReqType attrs, env.parse bytes = some (uiReqType, attrs) →
      AllFit env.codes fresh attrs ∧
      (GivesSessionId env.codes attrs ∨
        uiReqType ≠ env.codes.PCRF_CMD_INSERT_SESSION ∧
        (uiReqType = env.codes.PCRF_CMD_REMOVE_SESSION →
          caches.sessions.links.mapParent "" = none) ∧
        (uiReqType = env.codes.PCRF_CMD_INSERT_SESSRUL → ¬ GivesRuleName env.codes attrs))
  | .step .. => True

variable {env} {caches : NodeCaches} {bytes : List Char} {fresh : Nat → Nat → Char}
  {uiReqType : UInt16} {attrs : List SPSReqAttr}

/-- What the attributes of a packet are read into, when all of them are used rightly. -/
theorem process_rightly (caches : NodeCaches) (hParse : env.parse bytes = some (uiReqType, attrs))
    (rightly : UsesAllRightly env.codes fresh {} attrs) :
    ∃ req : IpcRequest, env.processRequest fresh caches bytes =
        .ok (ipcCommand env.codes env.pcrfPeerDialectRet caches uiReqType req) ∧
      (req.strSessionId.length = 0 ↔ ¬ GivesSessionId env.codes attrs) ∧
      (req.pstrRuleName.isSome = true ↔ GivesRuleName env.codes attrs) := by
  obtain ⟨req, hRead, hId, hRule⟩ := readAttrs_rightly rightly
  refine ⟨req, ?_, ?_, ?_⟩
  · simp only [IpcEnv.processRequest, hParse, ipcReadAttrs, hRead]
    rfl
  · rw [hId]
    constructor
    · rintro ⟨-, hNone⟩ ⟨attr, hAttr, data, hGives, hData⟩
      exact hData (hNone attr hAttr data hGives)
    · intro hNone
      refine ⟨rfl, fun attr hAttr data hGives => ?_⟩
      by_contra hData
      exact hNone ⟨attr, hAttr, data, hGives, hData⟩
  · rw [hRule]
    exact ⟨fun h => h.elim (fun h => nomatch h) id, Or.inr⟩

/-- A packet with a session id brings no empty key in. -/
theorem process_named (h : caches.Nameless) (hParse : env.parse bytes = some (uiReqType, attrs))
    (rightly : UsesAllRightly env.codes fresh {} attrs)
    (hGives : GivesSessionId env.codes attrs) :
    ∃ after, env.processRequest fresh caches bytes = .ok after ∧ after.Nameless := by
  obtain ⟨req, hDone, hId, -⟩ := process_rightly caches hParse rightly
  exact ⟨_, hDone, command_named env (fun hEmpty => hId.mp hEmpty hGives) h⟩

/-- When one without a session id changes nothing. -/
theorem process_unchanged_iff (h : caches.Nameless)
    (hParse : env.parse bytes = some (uiReqType, attrs))
    (rightly : UsesAllRightly env.codes fresh {} attrs)
    (hGives : ¬ GivesSessionId env.codes attrs) :
    env.processRequest fresh caches bytes = .ok caches ↔
      uiReqType ≠ env.codes.PCRF_CMD_INSERT_SESSION ∧
      (uiReqType = env.codes.PCRF_CMD_REMOVE_SESSION →
        caches.sessions.links.mapParent "" = none) ∧
      (uiReqType = env.codes.PCRF_CMD_INSERT_SESSRUL → ¬ GivesRuleName env.codes attrs) := by
  obtain ⟨req, hDone, hId, hRule⟩ := process_rightly caches hParse rightly
  rw [hDone, Except.ok.injEq, ← hRule]
  exact command_unchanged_iff env h (hId.mpr hGives)

/-- A packet of another command changes nothing. -/
theorem process_other (caches : NodeCaches) (hParse : env.parse bytes = some (uiReqType, attrs))
    (rightly : UsesAllRightly env.codes fresh {} attrs) (h : ¬ env.codes.Changes uiReqType) :
    env.processRequest fresh caches bytes = .ok caches := by
  obtain ⟨req, hDone, -⟩ := process_rightly caches hParse rightly
  rw [hDone, command_other env h]

/-- A packet that is processed without a session id has left the caches as they were. -/
theorem unchanged_of_processes (hParse : env.parse bytes = some (uiReqType, attrs))
    (hProcesses : env.Processes fresh caches bytes) (hGives : ¬ GivesSessionId env.codes attrs) :
    env.processRequest fresh caches bytes = .ok caches := by
  obtain ⟨after, hAfter, -, hPacket⟩ := hProcesses
  obtain ⟨rightly, hUnchanged⟩ := hPacket uiReqType attrs hParse
  by_cases hChanges : env.codes.Changes uiReqType
  · rw [hAfter, hUnchanged hChanges hGives]
  · exact process_other caches hParse rightly hChanges

/-- One event is handled exactly when it fits. -/
theorem handles_iff (h : caches.Nameless) (event : NodeEvent env) :
    env.Handles caches event ↔ env.Fits caches event := by
  cases event with
  | step call step mem => exact iff_true_intro (own_step mem h).1
  | datagram bytes fresh =>
    cases hParse : env.parse bytes with
    | none =>
      -- a datagram that cannot be parsed is dropped
      have hSame : env.processRequest fresh caches bytes = .ok caches := by
        simp only [IpcEnv.processRequest, hParse]
      refine iff_of_true ⟨caches, hSame, h.1, fun _ _ hSome => ?_⟩ fun _ _ hSome => ?_
      · rw [hParse] at hSome
        cases hSome
      · rw [hParse] at hSome
        cases hSome
    | some packet =>
      obtain ⟨uiReqType, attrs⟩ := packet
      constructor
      · intro hProcesses uiReqType' attrs' hSome
        rw [hParse] at hSome
        cases hSome
        obtain ⟨_, -, -, hPacket⟩ := id hProcesses
        have rightly := (hPacket uiReqType attrs hParse).1
        refine ⟨(usesAllRightly_iff {} attrs).mp rightly, ?_⟩
        by_cases hGives : GivesSessionId env.codes attrs
        · exact .inl hGives
        · exact .inr ((process_unchanged_iff h hParse rightly hGives).mp
            (unchanged_of_processes hParse hProcesses hGives))
      · intro hFits
        obtain ⟨hAll, hKeyed⟩ := hFits uiReqType attrs hParse
        have rightly := (usesAllRightly_iff {} attrs).mpr hAll
        have hSame : ∀ uiReqType' attrs', env.parse bytes = some (uiReqType', attrs') →
            uiReqType' = uiReqType ∧ attrs' = attrs := by
          intro uiReqType' attrs' hSome
          rw [hParse] at hSome
          cases hSome
          exact ⟨rfl, rfl⟩
        by_cases hGives : GivesSessionId env.codes attrs
        · obtain ⟨after, hAfter, hNameless⟩ := process_named h hParse rightly hGives
          refine ⟨after, hAfter, hNameless.1, fun uiReqType' attrs' hSome => ?_⟩
          obtain ⟨rfl, rfl⟩ := hSame uiReqType' attrs' hSome
          exact ⟨rightly, fun _ hNot => absurd hGives hNot⟩
        · have hKept := (process_unchanged_iff h hParse rightly hGives).mpr
            (hKeyed.resolve_left hGives)
          refine ⟨caches, hKept, h.1, fun uiReqType' attrs' hSome => ?_⟩
          obtain ⟨rfl, rfl⟩ := hSame uiReqType' attrs' hSome
          exact ⟨rightly, fun _ _ => rfl⟩

/-- An event that is handled leaves the caches without a session that has no id. -/
theorem handles_nameless (h : caches.Nameless) {event : NodeEvent env} {after : NodeCaches}
    (handled : env.Handles caches event) (hAfter : env.next caches event = .ok after) :
    after.Nameless := by
  cases event with
  | step call step mem =>
    cases hAfter
    exact own_step mem h
  | datagram bytes fresh =>
    have hDone : env.processRequest fresh caches bytes = .ok after := hAfter
    cases hParse : env.parse bytes with
    | none =>
      simp only [IpcEnv.processRequest, hParse] at hDone
      rw [← Except.ok.inj hDone]
      exact h
    | some packet =>
      obtain ⟨uiReqType, attrs⟩ := packet
      obtain ⟨_, -, -, hPacket⟩ := id handled
      by_cases hGives : GivesSessionId env.codes attrs
      · obtain ⟨last, hLast, hNameless⟩ :=
          process_named h hParse (hPacket uiReqType attrs hParse).1 hGives
        rw [← Except.ok.inj (hLast.symm.trans hDone)]
        exact hNameless
      · have hSame := unchanged_of_processes hParse handled hGives
        rw [← Except.ok.inj (hSame.symm.trans hDone)]
        exact h

end Node

/-- All along a run of a node, every attribute of every datagram is used rightly or ignored, a
command without a session id changes nothing, and no key is empty: exactly when the datagrams of
the run fit. -/
theorem handles_along_iff (env : IpcEnv) (events : List (NodeEvent env)) :
    Along env.next env.Handles {} events ↔ Along env.next env.Fits {} events :=
  Along.congr_of_inv (fun _ event h => handles_iff h event)
    (fun _ _ _ h handled hAfter => handles_nameless h handled hAfter) events nameless_start

/-! ### Two datagrams -/

/-- A node whose datagrams are of one command and one attribute, the bytes of the datagram. -/
def oneAttrEnv (uiReqType : UInt16) : IpcEnv where
  codes := sampleCodes
  parse bytes := some (uiReqType, [⟨sampleCodes.PCRF_ATTR_AVP, bytes⟩])
  pcrfPeerDialectRet _ _ := .gxUndef
  fresh _ _ := Char.ofNat 0

/-- The process stops at a session id whose length is less than that of its header; and a session
without an id is inserted. -/
theorem not_handles_malformed :
    ¬ Along (oneAttrEnv 2).next (oneAttrEnv 2).Handles {}
        [.datagram (payloadHdr 0 263 4) fun _ _ => Char.ofNat 0] ∧
      ¬ Along (oneAttrEnv 1).next (oneAttrEnv 1).Handles {}
        [.datagram (payloadHdr 0 263 8) fun _ _ => Char.ofNat 0] := by
  constructor
  · rintro ⟨⟨after, hAfter, -⟩, -⟩
    have hStops : (oneAttrEnv 2).processRequest (fun _ _ => Char.ofNat 0) {}
        (payloadHdr 0 263 4) = .error .lengthError := by
      rfl
    rw [hStops] at hAfter
    cases hAfter
  · rintro ⟨⟨after, hAfter, hLacks, -⟩, -⟩
    have hKey : ((oneAttrEnv 1).processRequest (fun _ _ => Char.ofNat 0) {}
        (payloadHdr 0 263 8)).map (fun after => (after.sessions.umapSessionCache "").isSome) =
          .ok true := by
      rfl
    rw [hAfter] at hKey
    have hSome : (after.sessions.umapSessionCache "").isSome = true := Except.ok.inj hKey
    rw [hLacks.1] at hSome
    cases hSome

end Pcrf
