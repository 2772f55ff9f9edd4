import Pcrf.SessionRuleTable
import Pcrf.SqlNode

/-!
The rule cache of a node beside `ps.sessionRule`: the cache is changed at once, the table by the
threads of the queues, when they come to the statements.
-/

namespace Pcrf

open Lib

/-- The queues of statements with the database behind them, and the rule cache. -/
structure RuleNode extends SqlNode SqlParam where
  mapSessRuleLst : SessionRuleCache := Store.empty

/-- A call of one of the writers, at the time that the clock shows, or a pass of the thread of
one queue. A session is terminated by `pcrf_session_cache_remove` and
`pcrf_db_close_session_rule_all`. -/
inductive RuleNodeOp where
  | insertRule (sessInfo : SSessionInfo) (rule : SDBAbonRule) (now : Tm)
  | closeSessionRule (sessInfo : SSessionInfo) (ruleName : String)
      (ruleFailureCode : Option String) (now : Tm)
  | terminate (sessionId : String) (now : Tm)
  | pass (index : Nat) (answers : SqlAnswers)

namespace RuleNode

variable (node : RuleNode)

def store : RuleStore := { mapSessRuleLst := node.mapSessRuleLst }

/-- A writer has changed the cache, and hands its statements to the queues. -/
def write (st : RuleStore) (now : Tm) : RuleNode :=
  { node with
    mapSessRuleLst := st.mapSessRuleLst
    sqlQueues :=
      st.sqlQueue.foldl
        (fun queues statement =>
          pcrfSqlQueueEnqueue queues (statement.request now) statement.sessionId)
        node.sqlQueues }

/-- The rows of the table, which was empty at first. -/
def sessionRule : List SessionRuleRow := node.table SSQLRequestInfo.onSessionRule []

end RuleNode

/-- The node with these queues; both stores are empty. -/
def ruleNodeMachine (start : SqlQueues SqlParam) : Machine RuleNode RuleNodeOp where
  init := { sqlQueues := start }
  step node
    | .insertRule sessInfo rule now => node.write (pcrfDbInsertRule node.store sessInfo rule) now
    | .closeSessionRule sessInfo ruleName ruleFailureCode now =>
      node.write (pcrfDbCloseSessionRule node.store sessInfo ruleName ruleFailureCode) now
    | .terminate sessionId now =>
      let st : RuleStore :=
        { mapSessRuleLst := pcrfSessionRuleCacheRemoveSessLocal node.mapSessRuleLst sessionId }
      node.write (pcrfDbCloseSessionRuleAll st sessionId) now
    | .pass index answers => { node with toSqlNode := node.toSqlNode.pass index answers }

/-- The session has a number and the rule has a name; of a pass, that nothing fails. -/
def RuleNodeOp.Regular : RuleNodeOp → Prop
  | .insertRule sessInfo rule _ => Numbered sessInfo.strSessionId ∧ rule.strRuleName ≠ ""
  | .closeSessionRule sessInfo ruleName _ _ => Numbered sessInfo.strSessionId ∧ ruleName ≠ ""
  | .terminate sessionId _ => Numbered sessionId
  | .pass _ answers => answers.Succeed

/-! ### What a statement is for the list of a session -/

/-- What the request is for the rules of a session. -/
def SSQLRequestInfo.onListOf (sessionId : String) (request : SSQLRequestInfo SqlParam)
    (names : List String) : List String :=
  request.change?.elim names fun change => change.onListOf sessionId names

/-- The request is about the session. -/
def SSQLRequestInfo.isAbout (sessionId : String) (request : SSQLRequestInfo SqlParam) : Bool :=
  request.change?.any fun change => change.sessionId = sessionId

/-- The request says everything that it has to, about a session that has its queue. -/
structure Plain (sessionId : Option String) (request : SSQLRequestInfo SqlParam)
    (change : SessionRuleChange) : Prop where
  decoded : request.change? = some change
  proper : change.Proper
  session : sessionId = some change.sessionId
  numbered : Numbered change.sessionId
  valid : request.valid = true

section Lists

variable {sessionId : String}

theorem onListOf_idle {request : SSQLRequestInfo SqlParam}
    (h : request.isAbout sessionId = false) (names : List String) :
    request.onListOf sessionId names = names := by
  unfold SSQLRequestInfo.isAbout at h
  unfold SSQLRequestInfo.onListOf
  cases decoded : request.change? with
  | none => rfl
  | some change =>
    rw [decoded] at h
    exact onListOf_other (by simpa using h) names

theorem length_pos_of_ne_empty {s : String} (h : s ≠ "") : 0 < s.length := by
  rw [Nat.pos_iff_ne_zero]
  exact fun empty => h (String.length_eq_zero_iff.mp empty)

end Lists

/-! ### Steps -/

/-- A writer changes the list of its session in the cache, and enqueues the same change. -/
structure RuleNode.Writes (node next : RuleNode) (request : SSQLRequestInfo SqlParam)
    (sessionId : String) (change : SessionRuleChange) : Prop where
  plain : Plain (some sessionId) request change
  sqlNode : next.toSqlNode = node.toSqlNode.enqueue request (some sessionId)
  rules : ∀ s, next.mapSessRuleLst.entries s = change.onListOf s (node.mapSessRuleLst.entries s)

/-- What the cache does with the list of the session. -/
theorem onListOf_entries (change : SessionRuleChange) (mapSessRuleLst : SessionRuleCache)
    (s : String) :
    change.onListOf s (mapSessRuleLst.entries s) =
      if s = change.sessionId then change.onList (mapSessRuleLst.entries change.sessionId)
      else mapSessRuleLst.entries s := by
  by_cases own : s = change.sessionId
  · rw [if_pos own, own, onListOf_own]
  · rw [if_neg own, onListOf_other (Ne.symm own)]

section Steps

variable {start : SqlQueues SqlParam} {node : RuleNode}

theorem insertRule_writes {sessInfo : SSessionInfo} {rule : SDBAbonRule} {now : Tm}
    (regular : (RuleNodeOp.insertRule sessInfo rule now).Regular) :
    node.Writes ((ruleNodeMachine start).step node (.insertRule sessInfo rule now))
      ((SqlStatement.insertRule sessInfo.strSessionId rule.strRuleName).request now)
      sessInfo.strSessionId
      (.insert sessInfo.strSessionId (pcrfFillOtlDatetime now) rule.strRuleName) where
  plain :=
    { decoded := by simp [SqlStatement.request, SSQLRequestInfo.change?]
      proper := ⟨numbered_ne_empty regular.1, regular.2⟩
      session := rfl
      numbered := regular.1
      valid := rfl }
  sqlNode := rfl
  rules s := by
    have sessionNamed := length_pos_of_ne_empty (numbered_ne_empty regular.1)
    have ruleNamed := length_pos_of_ne_empty regular.2
    have list := rulesOf_insertRule sessionNamed ruleNamed node.store s
    rw [onListOf_entries]
    exact list

theorem closeSessionRule_writes {sessInfo : SSessionInfo} {ruleName : String}
    {code : Option String} {now : Tm}
    (regular : (RuleNodeOp.closeSessionRule sessInfo ruleName code now).Regular) :
    node.Writes ((ruleNodeMachine start).step node (.closeSessionRule sessInfo ruleName code now))
      ((SqlStatement.closeRule sessInfo.strSessionId ruleName code).request now)
      sessInfo.strSessionId
      (.close (pcrfFillOtlDatetime now) (code.elim .empty .of) sessInfo.strSessionId
        (.of ruleName)) where
  plain :=
    { decoded := by simp [SqlStatement.request, SSQLRequestInfo.change?]
      proper := ⟨rfl, numbered_ne_empty regular.1, rfl, regular.2⟩
      session := rfl
      numbered := regular.1
      valid := rfl }
  sqlNode := rfl
  rules s := by
    have sessionNamed := length_pos_of_ne_empty (numbered_ne_empty regular.1)
    have ruleNamed := length_pos_of_ne_empty regular.2
    -- the cache takes out every entry of the name, as the statement closes every open row of it
    have removed : ((ruleNodeMachine start).step node
        (.closeSessionRule sessInfo ruleName code now)).mapSessRuleLst =
        node.mapSessRuleLst.purge sessInfo.strSessionId ruleName :=
      if_pos ⟨sessionNamed, ruleNamed⟩
    rw [removed, Index.entries_purge, onListOf_entries]
    rfl

theorem terminate_writes {sessionId : String} {now : Tm}
    (regular : (RuleNodeOp.terminate sessionId now).Regular) :
    node.Writes ((ruleNodeMachine start).step node (.terminate sessionId now))
      ((SqlStatement.closeRuleAll sessionId).request now) sessionId
      (.closeAll (pcrfFillOtlDatetime now) sessionId) where
  plain :=
    { decoded := by simp [SqlStatement.request, SSQLRequestInfo.change?]
      proper := ⟨rfl, numbered_ne_empty regular⟩
      session := rfl
      numbered := regular
      valid := rfl }
  sqlNode := rfl
  rules s := by
    -- the cache forgets the whole list
    have removed : ((ruleNodeMachine start).step node (.terminate sessionId now)).mapSessRuleLst =
        Store.erase node.mapSessRuleLst sessionId := rfl
    rw [removed, Index.entries_erase, onListOf_entries]
    rfl

end Steps

/-! ### Runs -/

/-- The cache is what the requests make of empty lists, which all say what they have to. -/
structure RuleNode.Ok (queueCount : Nat) (node : RuleNode) : Prop where
  sqlNode : node.toSqlNode.Ok queueCount
  plain : ∀ call ∈ node.sqlQueues.calls, ∃ change, Plain call.sessionId call.request change
  rules : ∀ s, node.mapSessRuleLst.entries s =
    replay (SSQLRequestInfo.onListOf s) [] node.sqlQueues.requests

section Runs

variable {queueCount : Nat} {node next : RuleNode}

theorem writes_ok (ok : node.Ok queueCount) {request : SSQLRequestInfo SqlParam}
    {sessionId : String} {change : SessionRuleChange}
    (writes : node.Writes next request sessionId change) : next.Ok queueCount where
  sqlNode := writes.sqlNode ▸ sqlNode_enqueue_ok ok.sqlNode writes.plain.valid (some sessionId)
  plain call mem := by
    rw [writes.sqlNode] at mem
    rcases List.mem_append.mp mem with old | new
    · exact ok.plain call old
    · obtain rfl := List.mem_singleton.mp new
      exact ⟨change, writes.plain⟩
  rules s := by
    rw [writes.sqlNode, requests_enqueue, replay_snoc, writes.rules, ok.rules s]
    simp only [SSQLRequestInfo.onListOf, writes.plain.decoded, Option.elim_some]

theorem ruleNode_pass_ok (ok : node.Ok queueCount) (index : Nat) {answers : SqlAnswers}
    (succeed : answers.Succeed) :
    RuleNode.Ok queueCount { node with toSqlNode := node.toSqlNode.pass index answers } where
  sqlNode := sqlNode_pass_ok ok.sqlNode index succeed
  plain call mem := ok.plain call (pass_calls node.toSqlNode index answers ▸ mem)
  rules s := by
    rw [SqlQueues.requests, pass_calls]
    exact ok.rules s

theorem ruleNode_init_ok {iDBPoolSize : Int32} {start : SqlQueues SqlParam}
    (init : pcrfSqlQueueInit SqlParam iDBPoolSize = some start) :
    (ruleNodeMachine start).init.Ok start.queueCount := by
  have none : start.calls = [] := calls_init init
  refine ⟨sqlNode_init_ok init, fun call mem => ?_, fun s => ?_⟩
  · rw [show (ruleNodeMachine start).init.sqlQueues = start from rfl, none] at mem
    cases mem
  · rw [show (ruleNodeMachine start).init.sqlQueues = start from rfl, SqlQueues.requests, none]
    rfl

theorem run_ruleNode_ok {iDBPoolSize : Int32} {start : SqlQueues SqlParam}
    (init : pcrfSqlQueueInit SqlParam iDBPoolSize = some start) {ops : List RuleNodeOp}
    (regular : ∀ op ∈ ops, op.Regular) :
    ((ruleNodeMachine start).run ops).Ok start.queueCount := by
  induction ops using List.reverseRecOn with
  | nil => exact ruleNode_init_ok init
  | append_singleton ops op ih =>
    have ok := ih fun other mem => regular other (List.mem_append_left _ mem)
    have last := regular op (List.mem_append_right _ (List.mem_singleton_self _))
    rw [Machine.run_snoc]
    cases op with
    | insertRule sessInfo rule now => exact writes_ok ok (insertRule_writes last)
    | closeSessionRule sessInfo ruleName code now =>
      exact writes_ok ok (closeSessionRule_writes last)
    | terminate sessionId now => exact writes_ok ok (terminate_writes last)
    | pass index answers => exact ruleNode_pass_ok ok index last

/-- A call about a session was made with its id, which has a number. -/
theorem plain_of_about (ok : node.Ok queueCount) {call : EnqueueCall SqlParam}
    (mem : call ∈ node.sqlQueues.calls) {s : String} (about : call.request.isAbout s = true) :
    Numbered s ∧ call.sessionId = some s := by
  obtain ⟨change, plain⟩ := ok.plain call mem
  have session : change.sessionId = s := by
    simpa [SSQLRequestInfo.isAbout, plain.decoded] using about
  exact session ▸ ⟨plain.numbered, plain.session⟩

/-- Each statement does to the open rows what its call did to the list. -/
theorem openRules_onSessionRule (ok : node.Ok queueCount) {call : EnqueueCall SqlParam}
    (mem : call ∈ node.sqlQueues.calls) (s : String) (rows : List SessionRuleRow) :
    openRules s (call.request.onSessionRule rows) =
      call.request.onListOf s (openRules s rows) := by
  obtain ⟨change, plain⟩ := ok.plain call mem
  simp only [SSQLRequestInfo.onSessionRule, SSQLRequestInfo.onListOf, plain.decoded,
    Option.elim_some]
  exact openRules_perform plain.proper s rows

/-- The open rows of each session are those that the cache lists. -/
theorem openRules_of_drained (ok : node.Ok queueCount) (positive : 0 < queueCount)
    (small : queueCount ≤ 2 ^ 31) (drained : node.Drained) (s : String) :
    openRules s node.sessionRule = node.mapSessRuleLst.entries s := by
  have observes (call : EnqueueCall SqlParam) (mem : call ∈ node.sqlQueues.calls) :=
    openRules_onSessionRule ok mem s
  have idle (request : SSQLRequestInfo SqlParam) (h : request.isAbout s = false) :=
    onListOf_idle h
  have cached : node.mapSessRuleLst.entries s = replay (SSQLRequestInfo.onListOf s) []
      (node.sqlQueues.requests.filter (SSQLRequestInfo.isAbout s)) :=
    (ok.rules s).trans (replay_filter idle ..).symm
  rw [cached, RuleNode.sessionRule]
  by_cases numbered : Numbered s
  · exact observe_drained _ _ _ (openRules s) [] ok.sqlNode positive small numbered
      (fun call mem about => (plain_of_about ok mem about).2) observes idle drained
  · -- nothing is about such a session
    have none (call : EnqueueCall SqlParam) (mem : call ∈ node.sqlQueues.calls) :
        call.request.isAbout s = false :=
      Bool.eq_false_iff.mpr fun about => numbered (plain_of_about ok mem about).1
    have nothing : node.sqlQueues.requests.filter (SSQLRequestInfo.isAbout s) = [] := by
      refine List.filter_eq_nil_iff.mpr fun request mem => ?_
      obtain ⟨call, called, rfl⟩ := List.mem_map.mp mem
      simp [none call called]
    rw [nothing]
    exact observe_none _ _ _ (openRules s) [] ok.sqlNode none observes idle

end Runs

/-- Starting with no rows and no rules, once the queues are drained, the open rows of a session
are the rules that the cache lists for it. -/
theorem open_rows_match_cache {iDBPoolSize : Int32} {start : SqlQueues SqlParam}
    (init : pcrfSqlQueueInit SqlParam iDBPoolSize = some start) {ops : List RuleNodeOp}
    (regular : ∀ op ∈ ops, op.Regular)
    (drained : ((ruleNodeMachine start).run ops).Drained) (sessionId : String) :
    (openRules sessionId ((ruleNodeMachine start).run ops).sessionRule).Perm
      (((ruleNodeMachine start).run ops).mapSessRuleLst.entries sessionId) := by
  obtain ⟨-, positive, small⟩ := init_ordered init sessionId
  have ok := run_ruleNode_ok init regular
  rw [openRules_of_drained ok positive small drained sessionId]

/-- Two sessions with a queue each, whose threads come to their statements in between. -/
def mirroredOps : List RuleNodeOp :=
  let now : Tm := ⟨114, 0, 31, 12, 0, 0⟩
  let first : SSessionInfo := { strSessionId := "gx;1" }
  let second : SSessionInfo := { strSessionId := "gx;2" }
  [.insertRule first { strRuleName := "a" } now, .insertRule second { strRuleName := "c" } now,
    .insertRule first { strRuleName := "b" } now, .pass 1 { pool := some (true, true) },
    .closeSessionRule first "a" none now, .pass 1 {}, .pass 0 { pool := some (true, true) },
    .pass 0 {}, .pass 0 {}, .terminate "gx;2" now, .pass 1 {}, .pass 1 {}, .pass 1 {}, .pass 0 {},
    .pass 0 {}, .pass 0 {}]

theorem mirroredOps_regular : ∀ op ∈ mirroredOps, op.Regular := by
  have first : Numbered "gx;1" := ⟨['1'], by decide, by decide⟩
  have second : Numbered "gx;2" := ⟨['2'], by decide, by decide⟩
  simp only [mirroredOps, List.forall_mem_cons, List.not_mem_nil, false_imp_iff, implies_true,
    and_true, RuleNodeOp.Regular]
  exact ⟨⟨first, by decide⟩, ⟨second, by decide⟩, ⟨first, by decide⟩, by decide,
    ⟨first, by decide⟩, by decide, by decide, by decide, by decide, second, by decide, by decide,
    by decide, by decide, by decide, by decide⟩

/-- The one rule that is left of the first session is in both. -/
theorem mirrored_rules_match :
    (openRules "gx;1" ((ruleNodeMachine { queues := [{}, {}] }).run mirroredOps).sessionRule).Perm
      (((ruleNodeMachine { queues := [{}, {}] }).run mirroredOps).mapSessRuleLst.entries "gx;1") :=
  open_rows_match_cache (show pcrfSqlQueueInit SqlParam 8 = some { queues := [{}, {}] } from rfl)
    mirroredOps_regular
    (show ∀ thread ∈ ((ruleNodeMachine { queues := [{}, {}] }).run mirroredOps).sqlQueues.queues,
      thread.listSQLQueue = [] ∧ thread.outside = true by decide) "gx;1"

end Pcrf
