import Pcrf.NodeCalls
import Pcrf.IpcRoundTrip

/-!
Concurrent calls on one node, and another node that carries out the commands it is sent. Whether
the caches of the two end up equal depends on the order in which calls that do not commute take
effect and are sent.
-/

namespace Pcrf

open Lib

/-- A call in progress, with the steps made and those still to be made. -/
structure Handler where
  call : CacheCall
  done : List CallStep
  todo : List CallStep

/-- The node that the calls are made on. `channel` is no data of the program: it records which
calls, each with its number, have made their step of a kind, in the order of these steps. -/
structure ReplicationState where
  handlers : List Handler := []
  caches : NodeCaches
  datagrams : List IpcDatagram := []
  channel : StepKind → List (Nat × CacheCall) := fun _ => []

/-- A new call is made, or the next step of a call in progress. -/
inductive ReplicationOp where
  | call (call : CacheCall)
  | step (i : Nat)

/-- What the node has beside its caches: the codes and packets, its peers and the other nodes. -/
structure NodeEnv where
  codes : IpcCodes
  pack : CPSPacket
  pcrfPeerDialectRet : String → String → PeerDialect
  inetAton : String → Bool
  nodeList : List SNode

section Machine

variable (env : NodeEnv)

def NodeEnv.steps (call : CacheCall) : List CallStep := call.steps env.codes env.pcrfPeerDialectRet

/-- The datagrams of a step. -/
def NodeEnv.datagrams : CallStep → List IpcDatagram
  | .send command =>
    pcrfIpcCmd2remote env.codes env.pack env.inetAton env.nodeList command.sessionId
      command.sessionInfo command.cmdType command.optionalParam
  | _ => []

/-- Handler `i` makes its next step. -/
def ReplicationState.advance (s : ReplicationState) (i : Nat) : ReplicationState :=
  match s.handlers[i]? with
  | some ⟨call, done, step :: todo⟩ =>
    { handlers := s.handlers.set i ⟨call, done ++ [step], todo⟩
      caches := s.caches.perform step
      datagrams := s.datagrams ++ env.datagrams step
      channel := fun kind =>
        if kind = step.kind then s.channel kind ++ [(i, call)] else s.channel kind }
  | _ => s

/-- The node, starting with some caches. -/
def replicationMachine (caches : NodeCaches) : Machine ReplicationState ReplicationOp where
  init := { caches }
  step s
    | .call call => { s with handlers := s.handlers ++ [⟨call, [], env.steps call⟩] }
    | .step i => s.advance env i

/-- The other node processes the datagrams sent to it, one by one. -/
def receiveAll (fresh : Nat → Nat → Char) (node : SNode) (caches : NodeCaches)
    (datagrams : List IpcDatagram) : Except IpcFault NodeCaches :=
  (datagrams.filter fun datagram => datagram.node = node).foldlM
    (fun caches datagram =>
      pcrfIpcProcessRequest env.codes env.pack fresh env.pcrfPeerDialectRet caches datagram.packet)
    caches

/-- The caches of the other node, which had the same to begin with, are those of this node. -/
def Replicated (fresh : Nat → Nat → Char) (node : SNode) (caches : NodeCaches)
    (s : ReplicationState) : Prop :=
  receiveAll env fresh node caches s.datagrams = .ok s.caches

/-- What a call does to the session cache. -/
def actSessions (ticket : Nat × CacheCall) : SessionCacheState → SessionCacheState :=
  performSessions (env.steps ticket.2)

/-- What a call does to the rule cache. -/
def actRules (ticket : Nat × CacheCall) : SessionRuleCache → SessionRuleCache :=
  performRules (env.steps ticket.2)

/-- The effects of the two calls on the session cache do not commute. -/
def SessionsConflict (a b : Nat × CacheCall) : Prop :=
  ¬ Commutes (actSessions env a) (actSessions env b)

/-- The effects of the two calls on the rule cache do not commute. -/
def RulesConflict (a b : Nat × CacheCall) : Prop := ¬ Commutes (actRules env a) (actRules env b)

/-- Call `ticket` may make a step of the kind: no conflicting call that has made its step of the
other kind is left behind. -/
def StepInOrder (s : ReplicationState) (ticket : Nat × CacheCall) : StepKind → Prop
  | .send => Admits (SessionsConflict env) (s.channel .send) (s.channel .sessions) ticket ∧
      Admits (RulesConflict env) (s.channel .send) (s.channel .rules) ticket
  | .sessions => Admits (SessionsConflict env) (s.channel .sessions) (s.channel .send) ticket
  | .rules => Admits (RulesConflict env) (s.channel .rules) (s.channel .send) ticket

/-- A command that is encoded: its strings fit, it fits the buffer, and the null fields of its
record hide no value. -/
def IpcCommand.Encodes (command : IpcCommand) : Prop :=
  (∀ avp ∈ pspackAvps env.codes command.sessionId command.sessionInfo command.cmdType
      command.optionalParam, avp.data.length ≤ 248) ∧
    (∃ len : Int, 0 < len ∧ (pcrfSessionCacheFillPspack env.codes env.pack 4096 command.sessionId
      command.sessionInfo command.cmdType command.optionalParam).2 = .ok len) ∧
    command.sessionInfo.map SSessionCache.shown = command.sessionInfo

/-- Calls are made with arguments that are encoded, and each step is in order. -/
def ReplicatesStep (s : ReplicationState) : ReplicationOp → Prop
  | .call call => ∀ command, .send command ∈ env.steps call → command.Encodes env
  | .step i => ∀ handler step todo, s.handlers[i]? = some handler →
      handler.todo = step :: todo → StepInOrder env s (i, handler.call) step.kind

/-! ### What a run records -/

/-- The records agree with the handlers, and what was done is what they record. -/
structure Recorded (caches : NodeCaches) (s : ReplicationState) : Prop where
  steps : ∀ h ∈ s.handlers, h.done ++ h.todo = env.steps h.call
  mem : ∀ kind ticket, ticket ∈ s.channel kind ↔
    ∃ h, s.handlers[ticket.1]? = some h ∧ h.call = ticket.2 ∧ kind ∈ h.done.map CallStep.kind
  nodup : ∀ kind, (s.channel kind).Nodup
  sessions : s.caches.sessions = replay (actSessions env) caches.sessions (s.channel .sessions)
  rules : s.caches.rules = replay (actRules env) caches.rules (s.channel .rules)

variable {env} {caches : NodeCaches} {s : ReplicationState}

/-- The steps of a call, made and to come, are of one kind each. -/
theorem Recorded.nodup_kinds (h : Recorded env caches s) {i : Nat} {call : CacheCall}
    {done todo : List CallStep} {step : CallStep}
    (next : s.handlers[i]? = some ⟨call, done, step :: todo⟩) :
    ((done ++ step :: todo).map CallStep.kind).Nodup := by
  rw [show done ++ step :: todo = env.steps call from h.steps _ (List.mem_of_getElem? next)]
  exact kinds_steps_nodup env.codes env.pcrfPeerDialectRet call

/-- A call whose next step is of a kind has not yet made one of that kind. -/
theorem Recorded.fresh (h : Recorded env caches s) {i : Nat} {call : CacheCall}
    {done todo : List CallStep} {step : CallStep}
    (next : s.handlers[i]? = some ⟨call, done, step :: todo⟩) :
    (i, call) ∉ s.channel step.kind := by
  rw [h.mem]
  rintro ⟨other, same, -, made⟩
  obtain rfl := Option.some.inj (next.symm.trans same)
  -- the step to come and the recorded one would be two of a kind
  have nodup := h.nodup_kinds next
  rw [List.map_append, List.map_cons] at nodup
  exact (List.nodup_append.mp nodup).2.2 _ made _ (List.mem_cons_self ..) rfl

section Kinds

variable {σ : Type} {act : σ → CallStep → σ} {kind : StepKind}
  (others : ∀ st step, step.kind ≠ kind → act st step = st)

include others

/-- Steps of other kinds do not matter to what only one kind acts on. -/
theorem foldl_of_notMem {steps : List CallStep} (absent : kind ∉ steps.map CallStep.kind)
    (st : σ) : steps.foldl act st = st := by
  induction steps generalizing st with
  | nil => rfl
  | cons step steps ih =>
    rw [List.map_cons, List.mem_cons, not_or] at absent
    rw [List.foldl_cons, others st step (Ne.symm absent.1)]
    exact ih absent.2 st

/-- Of steps of different kinds it is only the one of that kind. -/
theorem foldl_of_nodup {done todo : List CallStep} {step : CallStep}
    (nodup : ((done ++ step :: todo).map CallStep.kind).Nodup) (same : step.kind = kind) (st : σ) :
    (done ++ step :: todo).foldl act st = act st step := by
  subst same
  rw [List.map_append, List.map_cons] at nodup
  obtain ⟨-, last, apart⟩ := List.nodup_append.mp nodup
  have before : step.kind ∉ done.map CallStep.kind :=
    fun mem => apart _ mem _ (List.mem_cons_self ..) rfl
  have after : step.kind ∉ todo.map CallStep.kind := (List.nodup_cons.mp last).1
  calc (done ++ step :: todo).foldl act st
      = todo.foldl act (act (done.foldl act st) step) := List.foldl_append ..
    _ = act (done.foldl act st) step := foldl_of_notMem others after _
    _ = act st step := by rw [foldl_of_notMem others before]

end Kinds

theorem performSessions_idle {step : CallStep} (other : step.kind ≠ .sessions)
    (sessions : SessionCacheState) : performSessions [step] sessions = sessions := by
  cases step with
  | sessions op => exact absurd rfl other
  | rules | send => rfl

theorem performRules_idle {step : CallStep} (other : step.kind ≠ .rules)
    (rules : SessionRuleCache) : performRules [step] rules = rules := by
  cases step with
  | rules op => exact absurd rfl other
  | sessions | send => rfl

theorem performSessions_of_notMem {steps : List CallStep}
    (absent : .sessions ∉ steps.map CallStep.kind) (sessions : SessionCacheState) :
    performSessions steps sessions = sessions :=
  foldl_of_notMem (fun _ _ other => performSessions_idle other _) absent sessions

theorem performRules_of_notMem {steps : List CallStep}
    (absent : .rules ∉ steps.map CallStep.kind) (rules : SessionRuleCache) :
    performRules steps rules = rules :=
  foldl_of_notMem (fun _ _ other => performRules_idle other _) absent rules

/-- All that a call does to the session cache it does in its one step of that kind. -/
theorem performSessions_eq {done todo : List CallStep} {op : CacheOp}
    (nodup : ((done ++ .sessions op :: todo).map CallStep.kind).Nodup)
    (sessions : SessionCacheState) :
    performSessions (done ++ .sessions op :: todo) sessions = sessions.apply op :=
  foldl_of_nodup (fun _ _ other => performSessions_idle other _) nodup rfl sessions

/-- The same for the rule cache. -/
theorem performRules_eq {done todo : List CallStep} {op : RuleCacheOp}
    (nodup : ((done ++ .rules op :: todo).map CallStep.kind).Nodup) (rules : SessionRuleCache) :
    performRules (done ++ .rules op :: todo) rules = rules.apply op :=
  foldl_of_nodup (fun _ _ other => performRules_idle other _) nodup rfl rules

/-- A new call has made no step. -/
theorem Recorded.call (h : Recorded env caches s) (call : CacheCall) :
    Recorded env caches { s with handlers := s.handlers ++ [⟨call, [], env.steps call⟩] } where
  steps handler mem := by
    cases List.mem_append.mp mem with
    | inl old => exact h.steps handler old
    | inr new =>
      obtain rfl := List.mem_singleton.mp new
      rfl
  mem kind ticket := by
    refine (h.mem kind ticket).trans ⟨?_, ?_⟩
    · rintro ⟨handler, at_i, same, made⟩
      exact ⟨handler, List.getElem?_append_left (List.getElem?_eq_some_iff.mp at_i).1 ▸ at_i, same,
        made⟩
    · rintro ⟨handler, at_i, same, made⟩
      dsimp only at at_i
      by_cases old : ticket.1 < s.handlers.length
      · rw [List.getElem?_append_left old] at at_i
        exact ⟨handler, at_i, same, made⟩
      · -- the new handler has made no step, so what is recorded is of an older one
        rw [List.getElem?_append_right (Nat.le_of_not_lt old)] at at_i
        obtain rfl := List.mem_singleton.mp (List.mem_of_getElem? at_i)
        cases made
  nodup := h.nodup
  sessions := h.sessions
  rules := h.rules

/-- The step made is recorded for the handler that has made it, and nothing else is. -/
theorem Recorded.mem_advance (h : Recorded env caches s) {i : Nat} {call : CacheCall}
    {done todo : List CallStep} {step : CallStep}
    (next : s.handlers[i]? = some ⟨call, done, step :: todo⟩) (kind : StepKind)
    (ticket : Nat × CacheCall) :
    ticket ∈ (if kind = step.kind then s.channel kind ++ [(i, call)] else s.channel kind) ↔
      ∃ handler, (s.handlers.set i ⟨call, done ++ [step], todo⟩)[ticket.1]? = some handler ∧
        handler.call = ticket.2 ∧ kind ∈ handler.done.map CallStep.kind := by
  obtain ⟨j, c⟩ := ticket
  have recorded := h.mem kind (j, c)
  have inside : i < s.handlers.length := (List.getElem?_eq_some_iff.mp next).1
  have grown : (j, c) ∈ (if kind = step.kind then s.channel kind ++ [(i, call)]
      else s.channel kind) ↔
      (j, c) ∈ s.channel kind ∨ (kind = step.kind ∧ j = i ∧ c = call) := by
    split <;> simp [*]
  refine grown.trans ?_
  by_cases hj : j = i
  · -- the handler has now made the step as well
    subst hj
    simp only [next, Option.some.injEq, exists_eq_left'] at recorded
    simp only [List.getElem?_set_self inside, Option.some.injEq, exists_eq_left', recorded,
      true_and, List.map_append, List.mem_append, List.map_singleton, List.mem_singleton]
    constructor
    · rintro (⟨same, made⟩ | ⟨made, same⟩)
      · exact ⟨same, .inl made⟩
      · exact ⟨same.symm, .inr made⟩
    · rintro ⟨same, made | made⟩
      · exact .inl ⟨same, made⟩
      · exact .inr ⟨made, same.symm⟩
  · simp only [hj, false_and, and_false, or_false, List.getElem?_set_ne (Ne.symm hj)]
    exact recorded

/-- A call does to the session cache what its step on it does. -/
theorem Recorded.actSessions_of_next (h : Recorded env caches s) {i : Nat} {call : CacheCall}
    {done todo : List CallStep} {op : CacheOp}
    (next : s.handlers[i]? = some ⟨call, done, .sessions op :: todo⟩) :
    actSessions env (i, call) = fun sessions => sessions.apply op := by
  have whole : done ++ .sessions op :: todo = env.steps call :=
    h.steps _ (List.mem_of_getElem? next)
  funext sessions
  rw [actSessions, ← whole]
  exact performSessions_eq (h.nodup_kinds next) sessions

/-- The same for the rule cache. -/
theorem Recorded.actRules_of_next (h : Recorded env caches s) {i : Nat} {call : CacheCall}
    {done todo : List CallStep} {op : RuleCacheOp}
    (next : s.handlers[i]? = some ⟨call, done, .rules op :: todo⟩) :
    actRules env (i, call) = fun rules => rules.apply op := by
  have whole : done ++ .rules op :: todo = env.steps call :=
    h.steps _ (List.mem_of_getElem? next)
  funext rules
  rw [actRules, ← whole]
  exact performRules_eq (h.nodup_kinds next) rules

/-- A step of a call is recorded. -/
theorem Recorded.advance (h : Recorded env caches s) (i : Nat) :
    Recorded env caches (s.advance env i) := by
  unfold ReplicationState.advance
  split
  next call done step todo next =>
    constructor
    case steps =>
      intro handler mem
      cases List.mem_or_eq_of_mem_set mem with
      | inl old => exact h.steps handler old
      | inr new =>
        subst new
        have whole : done ++ step :: todo = env.steps call :=
          h.steps _ (List.mem_of_getElem? next)
        simpa using whole
    case mem => exact h.mem_advance next
    case nodup =>
      intro kind
      dsimp only
      split
      next same =>
        -- the step is the first of its kind that the call makes
        subst same
        exact List.nodup_append.mpr ⟨h.nodup _, List.nodup_singleton _, fun a ha b hb => by
          rintro rfl
          obtain rfl := List.mem_singleton.mp hb
          exact h.fresh next ha⟩
      next => exact h.nodup kind
    case sessions =>
      cases step with
      | sessions op =>
        refine (congrArg (SessionCacheState.apply · op) h.sessions).trans ?_
        refine Eq.trans ?_ (replay_snoc ..).symm
        rw [h.actSessions_of_next next]
      | rules op => exact h.sessions
      | send command => exact h.sessions
    case rules =>
      cases step with
      | rules op =>
        refine (congrArg (SessionRuleCache.apply · op) h.rules).trans ?_
        refine Eq.trans ?_ (replay_snoc ..).symm
        rw [h.actRules_of_next next]
      | sessions op => exact h.rules
      | send command => exact h.rules
  next => exact h

/-- What a call does to the rule cache it does to the list of its session. -/
theorem actRules_eq (ticket : Nat × CacheCall) : actRules env ticket = id ∨
    ∃ op : RuleCacheOp, op.sessionId = (ticket.2.command env.codes).sessionId ∧
      actRules env ticket = (SessionRuleCache.apply · op) := by
  obtain ⟨i, call⟩ := ticket
  simp only [actRules, NodeEnv.steps]
  cases call with
  | sessionCacheInsert sessionId sessionInfo requestInfo parentSessionId =>
    rw [CacheCall.steps, pcrfSessionCacheInsert]
    split <;> exact .inl rfl
  | sessionCacheRemove sessionId => exact .inr ⟨.removeSessLocal sessionId, rfl, rfl⟩
  | sessionRuleCacheInsert sessionId ruleName =>
    rw [CacheCall.steps, sessionRuleCacheInsertSteps]
    split
    · exact .inr ⟨.insertLocal sessionId ruleName, rfl, rfl⟩
    · exact .inl rfl
  | sessionRuleCacheRemoveRule sessionId ruleName =>
    rw [CacheCall.steps, sessionRuleCacheRemoveRuleSteps]
    split
    · exact .inr ⟨.removeRuleLocal sessionId ruleName, rfl, rfl⟩
    · exact .inl rfl

/-- Only calls about one session conflict on the rule cache. -/
theorem RulesConflict.sessionId_eq {a b : Nat × CacheCall} (h : RulesConflict env a b) :
    (a.2.command env.codes).sessionId = (b.2.command env.codes).sessionId := by
  by_contra ne
  -- calls about different sessions change different entries, so they commute
  refine h ?_
  rcases @actRules_eq env a with ha | ⟨op, hop, ha⟩
  · rw [ha]
    exact fun _ => rfl
  rcases @actRules_eq env b with hb | ⟨op', hop', hb⟩
  · rw [hb]
    exact fun _ => rfl
  rw [ha, hb]
  exact RuleCacheOp.commutes_of_ne (by rwa [hop, hop'])

/-! ### The other node -/

/-- The datagrams of a command that is encoded: one for the other node, with the whole packet. -/
theorem datagrams_send {node : SNode} (once : env.nodeList.count node = 1)
    (reach : env.inetAton node.addr = true) {command : IpcCommand}
    (encodes : command.Encodes env) :
    ∃ packet len, pcrfSessionCacheFillPspack env.codes env.pack 4096 command.sessionId
        command.sessionInfo command.cmdType command.optionalParam = (packet, .ok len) ∧
      (env.datagrams (.send command)).filter (fun datagram => datagram.node = node) =
        [⟨node, packet, len⟩] := by
  obtain ⟨-, ⟨len, positive, filled⟩, -⟩ := encodes
  generalize hfill : pcrfSessionCacheFillPspack env.codes env.pack 4096 command.sessionId
    command.sessionInfo command.cmdType command.optionalParam = fill at filled
  obtain ⟨packet, result⟩ := fill
  obtain rfl : result = .ok len := filled
  refine ⟨packet, len, rfl, ?_⟩
  have targets : (env.nodeList.filter fun target => env.inetAton target.addr).filter
      (fun target => target = node) = [node] := by
    rw [List.filter_filter]
    have same : env.nodeList.filter
        (fun target => decide (target = node) && env.inetAton target.addr) =
          env.nodeList.filter (fun target => target = node) :=
      List.filter_congr fun target _ => by
        by_cases h : target = node <;> simp [h, reach]
    rw [same, List.filter_eq, once, List.replicate_one]
  simp only [NodeEnv.datagrams, pcrfIpcCmd2remote, hfill, positive, if_true, List.filter_map]
  exact congrArg (List.map _) targets

/-- The other node does to its caches what the call does. -/
theorem process_command (fresh : Nat → Nat → Char) {call : CacheCall} {command : IpcCommand}
    (sends : .send command ∈ env.steps call) (encodes : command.Encodes env)
    {packet : SPSRequest} {len : Int}
    (built : pcrfSessionCacheFillPspack env.codes env.pack 4096 command.sessionId
      command.sessionInfo command.cmdType command.optionalParam = (packet, .ok len))
    (other : NodeCaches) :
    pcrfIpcProcessRequest env.codes env.pack fresh env.pcrfPeerDialectRet other packet =
      .ok ((env.steps call).foldl NodeCaches.perform other) := by
  obtain ⟨reqType, complete, req, loop, holds⟩ := read_pspack encodes.1 built fresh
  have id := holds.sessionId_eq
  -- what is decoded is what the call has encoded
  obtain rfl : command = call.command env.codes := command_eq_of_send _ _ sends
  rw [pcrfIpcProcessRequest, loop, reqType]
  refine congrArg Except.ok ?_
  have distinct := env.codes.cmds_nodup
  simp only [List.nodup_cons, List.mem_cons, List.not_mem_nil, or_false, not_or] at distinct
  obtain ⟨⟨h1, h2, h3⟩, ⟨h4, h5⟩, h6, -⟩ := distinct
  cases call with
  | sessionCacheInsert sessionId sessionInfo requestInfo parentSessionId =>
    simp only [NodeEnv.steps, CacheCall.steps, pcrfSessionCacheInsert] at sends ⊢
    split at sends
    next nonempty =>
      obtain ⟨record, parent⟩ := holds.record_eq complete rfl
      -- no null field of the record hides a value, so it is decoded as it is
      have shown : req.psoCache = sessionCacheRecord sessionInfo requestInfo :=
        Option.some.inj (record.symm.trans encodes.2.2)
      simp only [CacheCall.command] at id parent ⊢
      rw [if_pos nonempty, ipcCommand, if_pos rfl, id, parent, shown]
      cases requestInfo <;> rfl
    next => cases sends
  | sessionCacheRemove sessionId =>
    simp only [CacheCall.command] at id ⊢
    rw [ipcCommand, if_neg (Ne.symm h1), if_pos rfl, id]
    rfl
  | sessionRuleCacheInsert sessionId ruleName =>
    simp only [NodeEnv.steps, CacheCall.steps, sessionRuleCacheInsertSteps] at sends ⊢
    split at sends
    next nonempty =>
      have name : req.pstrRuleName = some ruleName := holds.ruleName_eq (.inl rfl)
      simp only [CacheCall.command] at id ⊢
      rw [if_pos nonempty, ipcCommand, if_neg (Ne.symm h2), if_neg (Ne.symm h4), if_pos rfl, name,
        id]
      rfl
    next => cases sends
  | sessionRuleCacheRemoveRule sessionId ruleName =>
    simp only [NodeEnv.steps, CacheCall.steps, sessionRuleCacheRemoveRuleSteps] at sends ⊢
    split at sends
    next nonempty =>
      have name : req.pstrRuleName = some ruleName := holds.ruleName_eq (.inr rfl)
      simp only [CacheCall.command] at id ⊢
      rw [if_pos nonempty, ipcCommand, if_neg (Ne.symm h3), if_neg (Ne.symm h5),
        if_neg (Ne.symm h6), if_pos rfl, name, id]
      rfl
    next => cases sends

/-! ### Runs -/

/-- The invariant of runs whose steps are all in order. -/
structure Replicating (env : NodeEnv) (fresh : Nat → Nat → Char) (node : SNode)
    (caches : NodeCaches) (s : ReplicationState) : Prop where
  recorded : Recorded env caches s
  encodes : ∀ h ∈ s.handlers, ∀ command, .send command ∈ env.steps h.call → command.Encodes env
  sessions : InStep (SessionsConflict env) (s.channel .send) (s.channel .sessions)
  rules : InStep (RulesConflict env) (s.channel .send) (s.channel .rules)
  received : receiveAll env fresh node caches s.datagrams =
    .ok ⟨replay (actSessions env) caches.sessions (s.channel .send),
      replay (actRules env) caches.rules (s.channel .send)⟩

theorem sessionsConflict_symm (a b : Nat × CacheCall) (h : SessionsConflict env a b) :
    SessionsConflict env b a := fun commutes => h commutes.symm

theorem rulesConflict_symm (a b : Nat × CacheCall) (h : RulesConflict env a b) :
    RulesConflict env b a := fun commutes => h commutes.symm

variable {fresh : Nat → Nat → Char} {node : SNode}

theorem Replicating.start : Replicating env fresh node caches { caches } where
  recorded := {
    steps := fun _ mem => by cases mem
    mem := fun _ _ => by simp
    nodup := fun _ => List.nodup_nil
    sessions := rfl
    rules := rfl }
  encodes _ mem := by cases mem
  sessions := .nil
  rules := .nil
  received := rfl

/-- What is sent next is received after the rest. -/
theorem receiveAll_append (datagrams more : List IpcDatagram) :
    receiveAll env fresh node caches (datagrams ++ more) =
      (receiveAll env fresh node caches datagrams).bind fun other =>
        receiveAll env fresh node other more := by
  simp only [receiveAll, List.filter_append, List.foldlM_append]
  rfl

/-- A step in order keeps the invariant. -/
theorem Replicating.advance (once : env.nodeList.count node = 1)
    (reach : env.inetAton node.addr = true) (h : Replicating env fresh node caches s) {i : Nat}
    {call : CacheCall} {done todo : List CallStep} {step : CallStep}
    (next : s.handlers[i]? = some ⟨call, done, step :: todo⟩)
    (inOrder : StepInOrder env s (i, call) step.kind) :
    Replicating env fresh node caches (s.advance env i) := by
  have recorded := h.recorded.advance i
  have new := h.recorded.fresh next
  have whole : done ++ step :: todo = env.steps call :=
    h.recorded.steps _ (List.mem_of_getElem? next)
  -- the handlers still make the calls that they were started with
  have encodes : ∀ handler ∈ s.handlers.set i ⟨call, done ++ [step], todo⟩, ∀ command,
      .send command ∈ env.steps handler.call → command.Encodes env := by
    intro handler mem
    cases List.mem_or_eq_of_mem_set mem with
    | inl old => exact h.encodes handler old
    | inr same =>
      subst same
      have before := h.encodes _ (List.mem_of_getElem? next)
      exact before
  simp only [ReplicationState.advance, next] at recorded ⊢
  cases step with
  | sessions op =>
    -- taking effect: the record of the effects grows, that of the sends does not
    exact ⟨recorded, encodes,
      (h.sessions.symm sessionsConflict_symm |>.snoc sessionsConflict_symm
        (h.recorded.nodup .send) new inOrder).symm sessionsConflict_symm,
      h.rules, by simpa [NodeEnv.datagrams, CallStep.kind] using h.received⟩
  | rules op =>
    exact ⟨recorded, encodes, h.sessions,
      (h.rules.symm rulesConflict_symm |>.snoc rulesConflict_symm
        (h.recorded.nodup .send) new inOrder).symm rulesConflict_symm,
      by simpa [NodeEnv.datagrams, CallStep.kind] using h.received⟩
  | send command =>
    have sends : .send command ∈ env.steps call := whole ▸ by simp
    have encoded := h.encodes _ (List.mem_of_getElem? next) command sends
    obtain ⟨packet, len, built, datagrams⟩ := datagrams_send once reach encoded
    refine ⟨recorded, encodes,
      h.sessions.snoc sessionsConflict_symm (h.recorded.nodup .sessions) new inOrder.1,
      h.rules.snoc rulesConflict_symm (h.recorded.nodup .rules) new inOrder.2, ?_⟩
    -- sending: the other node carries out the whole call when it processes the datagram
    have processed (other : NodeCaches) :
        receiveAll env fresh node other (env.datagrams (.send command)) =
          .ok ((env.steps call).foldl NodeCaches.perform other) := by
      rw [receiveAll, datagrams]
      simp only [List.foldlM_cons, List.foldlM_nil, process_command fresh sends encoded built]
      rfl
    rw [receiveAll_append, h.received]
    refine (processed _).trans ?_
    rw [foldl_perform]
    simp only [CallStep.kind, if_true]
    rw [replay_snoc, replay_snoc]
    rfl

theorem replicating_run (once : env.nodeList.count node = 1)
    (reach : env.inetAton node.addr = true) {ops : List ReplicationOp}
    (meets : (replicationMachine env caches).Meets (ReplicatesStep env) ops) :
    Replicating env fresh node caches ((replicationMachine env caches).run ops) := by
  refine (replicationMachine env caches).inv_of_meets Replicating.start ?_ meets
  intro s o h inOrder
  cases o with
  | call call =>
    exact ⟨h.recorded.call call, fun handler mem command sends => by
      cases List.mem_append.mp mem with
      | inl old => exact h.encodes handler old command sends
      | inr new =>
        obtain rfl := List.mem_singleton.mp new
        exact inOrder command sends, h.sessions, h.rules, h.received⟩
  | step i =>
    change Replicating env fresh node caches (s.advance env i)
    cases hi : s.handlers[i]? with
    | none => simpa [ReplicationState.advance, hi] using h
    | some handler =>
      obtain ⟨call, done, todo⟩ := handler
      cases todo with
      | nil => simpa [ReplicationState.advance, hi] using h
      | cons step todo => exact h.advance once reach hi (inOrder _ step todo hi rfl)

/-- Steps that are all made are recorded, so both records have the same calls in them. -/
theorem Recorded.perm (h : Recorded env caches s) (idle : ∀ h ∈ s.handlers, h.todo = [])
    (kind : StepKind) :
    ((s.channel .send).filter fun ticket =>
        kind ∈ (env.steps ticket.2).map CallStep.kind).Perm (s.channel kind) := by
  refine (List.perm_ext_iff_of_nodup ((h.nodup .send).filter _) (h.nodup kind)).mpr fun ticket => ?_
  -- a finished handler has made all steps of its call
  have finished : ∀ kind, ticket ∈ s.channel kind ↔
      ∃ h, s.handlers[ticket.1]? = some h ∧ h.call = ticket.2 ∧
        kind ∈ (env.steps ticket.2).map CallStep.kind := by
    intro kind
    rw [h.mem]
    refine exists_congr fun handler => and_congr_right fun at_i => and_congr_right fun same => ?_
    have mem := List.mem_of_getElem? at_i
    have whole := h.steps handler mem
    rw [idle handler mem, List.append_nil] at whole
    rw [whole, same]
  rw [List.mem_filter, finished, finished]
  simp only [decide_eq_true_eq]
  constructor
  · rintro ⟨⟨handler, at_i, same, -⟩, made⟩
    exact ⟨handler, at_i, same, made⟩
  · rintro ⟨handler, at_i, same, made⟩
    exact ⟨⟨handler, at_i, same, send_mem_kinds _ _ made⟩, made⟩

/-- What the calls did to a cache is what they do to it in the order in which they were sent. -/
theorem Recorded.replay_eq (h : Recorded env caches s) (idle : ∀ h ∈ s.handlers, h.todo = [])
    {α : Type} {act : Nat × CacheCall → α → α} {kind : StepKind}
    (other : ∀ ticket, kind ∉ (env.steps ticket.2).map CallStep.kind → ∀ a, act ticket a = a)
    (inStep : InStep (fun a b => ¬ Commutes (act a) (act b)) (s.channel .send) (s.channel kind))
    (a : α) : replay act a (s.channel .send) = replay act a (s.channel kind) := by
  -- calls without a step of the kind do nothing to the cache
  have filtered : replay act a ((s.channel .send).filter fun ticket =>
      kind ∈ (env.steps ticket.2).map CallStep.kind) = replay act a (s.channel .send) :=
    replay_filter (fun ticket h => other ticket (by simpa using h)) a _
  refine filtered.symm.trans (Lib.replay_eq (h.perm idle kind) ((h.nodup .send).filter _) ?_ a)
  intro b c conflict first
  exact inStep.agree b c conflict (first.trans List.filter_sublist)

/-- When every step of a run is in order and no call is in progress, the other node, having
processed the datagrams in the order they were sent, has the same caches. -/
theorem replicated (once : env.nodeList.count node = 1) (reach : env.inetAton node.addr = true)
    {ops : List ReplicationOp}
    (meets : (replicationMachine env caches).Meets (ReplicatesStep env) ops)
    (idle : ∀ h ∈ ((replicationMachine env caches).run ops).handlers, h.todo = []) :
    Replicated env fresh node caches ((replicationMachine env caches).run ops) := by
  have h : Replicating env fresh node caches _ := replicating_run once reach meets
  generalize (replicationMachine env caches).run ops = s at h idle ⊢
  -- each cache: the effects in the order of the sends are those in their own order
  have sessions : replay (actSessions env) caches.sessions (s.channel .send) =
      replay (actSessions env) caches.sessions (s.channel .sessions) :=
    h.recorded.replay_eq idle (fun _ none => performSessions_of_notMem none) h.sessions _
  have rules : replay (actRules env) caches.rules (s.channel .send) =
      replay (actRules env) caches.rules (s.channel .rules) :=
    h.recorded.replay_eq idle (fun _ none => performRules_of_notMem none) h.rules _
  rw [Replicated, h.received, sessions, rules, ← h.recorded.sessions, ← h.recorded.rules]

end Machine

/-- A node that has one other node to send to. -/
def sampleEnv : NodeEnv where
  codes := sampleCodes
  pack := samplePacket
  pcrfPeerDialectRet _ _ := .gxUndef
  inetAton _ := true
  nodeList := [⟨"10.0.0.2", 7777⟩]

/-- A call is in order when it overtakes no other one. -/
theorem Admits.of_abreast {α : Type} {act : Nat × CacheCall → α → α} {X Y : List (Nat × CacheCall)}
    {a : Nat × CacheCall} (abreast : ∀ b ∈ Y, b = a ∨ b ∈ X) :
    Admits (fun a b => ¬ Commutes (act a) (act b)) X Y a := by
  intro b conflict mem
  refine .inl ((abreast b mem).resolve_left ?_)
  rintro rfl
  exact conflict fun _ => rfl

/-- Two rules of a session are issued one after the other. -/
theorem replicated_sample :
    Replicated sampleEnv (fun _ _ => '?') ⟨"10.0.0.2", 7777⟩ {}
      ((replicationMachine sampleEnv {}).run
        [.call (.sessionRuleCacheInsert "gx;1;1" "internet"),
         .call (.sessionRuleCacheInsert "gx;1;1" "voice"),
         .step 0, .step 0, .step 1, .step 1]) := by
  have internet : ∀ command, .send command ∈ sampleEnv.steps
      (.sessionRuleCacheInsert "gx;1;1" "internet") → command.Encodes sampleEnv := by
    intro command sends
    obtain rfl := command_eq_of_send _ _ sends
    exact ⟨by decide +kernel, ⟨46, by decide, by decide +kernel⟩, rfl⟩
  have voice : ∀ command, .send command ∈ sampleEnv.steps
      (.sessionRuleCacheInsert "gx;1;1" "voice") → command.Encodes sampleEnv := by
    intro command sends
    obtain rfl := command_eq_of_send _ _ sends
    exact ⟨by decide +kernel, ⟨43, by decide, by decide +kernel⟩, rfl⟩
  refine replicated (by decide) rfl ⟨internet, voice, ?_, ?_, ?_, ?_, trivial⟩ (by decide)
  · rintro handler step todo at_i next
    obtain rfl := Option.some.inj at_i
    obtain ⟨rfl, rfl⟩ := List.cons.inj next
    exact Admits.of_abreast (by decide)
  · rintro handler step todo at_i next
    obtain rfl := Option.some.inj at_i
    obtain ⟨rfl, rfl⟩ := List.cons.inj next
    exact ⟨Admits.of_abreast (by decide), Admits.of_abreast (by decide)⟩
  · rintro handler step todo at_i next
    obtain rfl := Option.some.inj at_i
    obtain ⟨rfl, rfl⟩ := List.cons.inj next
    exact Admits.of_abreast (by decide)
  · rintro handler step todo at_i next
    obtain rfl := Option.some.inj at_i
    obtain ⟨rfl, rfl⟩ := List.cons.inj next
    exact ⟨Admits.of_abreast (by decide), Admits.of_abreast (by decide)⟩

/-- The handler of an update sends the session and is delayed; the session is removed meanwhile,
on the other node too; then the update takes effect, on the first node only. -/
theorem replicated_counterexample :
    let s := (replicationMachine sampleEnv {}).run
      [.call (.sessionCacheInsert "gx;1;1" { strSubscriberId := "7" } none none),
       .call (.sessionCacheRemove "gx;1;1"), .step 0, .step 1, .step 1, .step 1, .step 0]
    (∀ h ∈ s.handlers, h.todo = []) ∧
      ¬ Replicated sampleEnv (fun _ _ => '?') ⟨"10.0.0.2", 7777⟩ {} s := by
  refine ⟨by decide, fun hReplicated => ?_⟩
  -- the session is cached on this node and not on the other one
  have records := congrArg
    (Except.map fun caches => caches.sessions.umapSessionCache "gx;1;1") hReplicated
  exact absurd records (by decide +kernel)

end Pcrf
