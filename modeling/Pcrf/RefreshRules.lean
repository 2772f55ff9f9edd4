import Pcrf.CreditControlRules
import Pcrf.RefreshTurns

/-!
What a refresh does to the rules of the sessions it comes to: the request that removes and
installs rules, and the rules that the session rule cache lists afterwards.
-/

namespace Pcrf

open Lib CallM

/-! ### The test for changes -/

/-- The test looks at both marks of a rule, but one of them is known on either side. -/
theorem isAnyChanges_iff {vectActive listAbonRules : List SDBAbonRule}
    (hactive : ∀ rule ∈ vectActive, rule.isActive = true)
    (hrelevant : ∀ rule ∈ listAbonRules, rule.isRelevant = true) :
    pcrfClientIsAnyChanges vectActive listAbonRules = true ↔
      unwanted vectActive ≠ [] ∨ missing listAbonRules ≠ [] := by
  simp only [pcrfClientIsAnyChanges, Bool.or_eq_true, List.any_eq_true, unwanted, missing,
    ruleNames, ne_eq, List.map_eq_nil_iff, List.filter_eq_nil_iff, not_forall, exists_prop,
    not_not]
  refine or_congr ⟨?_, ?_⟩ ⟨?_, ?_⟩
  -- an active rule is marked active, a wanted one relevant: the other mark decides
  · rintro ⟨rule, hrule, hmarks⟩
    exact ⟨rule, hrule, (Bool.and_eq_true_iff.mp hmarks).1⟩
  · rintro ⟨rule, hrule, hmark⟩
    exact ⟨rule, hrule, by simp [hmark, hactive rule hrule]⟩
  · rintro ⟨rule, hrule, hmarks⟩
    exact ⟨rule, hrule, (Bool.and_eq_true_iff.mp hmarks).1⟩
  · rintro ⟨rule, hrule, hmark⟩
    exact ⟨rule, hrule, by simp [hmark, hrelevant rule hrule]⟩

/-- The marks show a change exactly when the two lists differ as sets. -/
theorem isAnyChanges_marked (mapSessRuleLst : SessionRuleCache) (sessionId : String)
    {listAbonRules : List SDBAbonRule} (hfresh : Fresh listAbonRules) :
    let marked := pcrfServerSelectNotrelevantActive listAbonRules
      (pcrfSessionRuleCacheGet mapSessRuleLst sessionId)
    pcrfClientIsAnyChanges marked.2 marked.1 = true ↔
      ¬ ∀ name, name ∈ mapSessRuleLst.entries sessionId ↔ name ∈ ruleNames listAbonRules := by
  intro marked
  have hcached : ∀ rule ∈ pcrfSessionRuleCacheGet mapSessRuleLst sessionId,
      rule.isActive = true ∧ rule.isRelevant = false := by
    simp [pcrfSessionRuleCacheGet]
  -- marking turns on one of the two marks and leaves the other as it was
  have hactive : ∀ rule ∈ marked.2, rule.isActive = true := by
    simp only [marked, selectNotrelevantActive_eq, List.forall_mem_map]
    intro rule hrule
    split <;> exact (hcached rule hrule).1
  have hrelevant : ∀ rule ∈ marked.1, rule.isRelevant = true := by
    simp only [marked, selectNotrelevantActive_eq, List.forall_mem_map]
    intro rule hrule
    split <;> exact (hfresh rule hrule).2
  rw [isAnyChanges_iff hactive hrelevant,
    unwanted_marked _ fun rule hrule => (hcached rule hrule).2,
    missing_marked _ fun rule hrule => (hfresh rule hrule).1, ruleNames_get]
  exact Reconcile.changes_iff

/-! ### The request -/

theorem effect_putChanges (sessInfo : SSessionInfo) (reqInfo : Option SRequestInfo)
    (vectActive listAbonRules : List SDBAbonRule) (listTrigger : Option (List Int32)) :
    RuleEffect
      (putChanges sessInfo reqInfo (some vectActive) (some listAbonRules) listTrigger)
      (namedFor sessInfo.uiPeerDialect (unwanted vectActive))
      (namedFor sessInfo.uiPeerDialect (missing listAbonRules))
      (insertAll sessInfo (issuedFor sessInfo.uiPeerDialect listAbonRules) ∘
        closeAll sessInfo (closedFor sessInfo.uiPeerDialect (unwanted vectActive))) := by
  have triggers : RuleEffect (putGiven listTrigger putTriggers) [] [] id := by
    cases listTrigger with
    | none => exact RuleEffect.pure
    | some listTrigger => exact effect_putTriggers listTrigger
  have heffect := triggers.bind
    ((effect_makeCRR sessInfo vectActive).bind
      ((effect_makeUMI false sessInfo.mapMonitInfo).tolerate.bind
        (effect_makeCRI sessInfo reqInfo listAbonRules)))
  simp only [List.append_nil, List.nil_append, Function.comp_id] at heffect
  exact heffect

/-- The request that is sent has just what was put into it. -/
theorem exec_gxRar_of_putChanges {sessInfo : SSessionInfo} {reqInfo : Option SRequestInfo}
    {vectActiveRules listAbonRules : Option (List SDBAbonRule)}
    {listTrigger : Option (List Int32)} {s : Answering AnswerState} (hs : s.AllSucceed)
    {store : RuleStore} {avps : List Avp}
    (hput : exec (putChanges sessInfo reqInfo vectActiveRules listAbonRules listTrigger)
      { s with state := { s.state with answer := [] } } =
        (some (), { s with state := { s.state with store, answer := avps } })) :
    exec (pcrfClientGxRar sessInfo reqInfo vectActiveRules listAbonRules listTrigger) s =
      (some (), { s with
        state :=
          { store, answer := avps, sent := s.state.sent ++ [rarOf sessInfo none avps] } }) := by
  have hmore : Answering.AllSucceed
      { s with state := { s.state with store, answer := avps } } := hs
  rw [pcrfClientGxRar, exec_bind_some (exec_newRar hs), exec_bind_some hput,
    exec_sendRar _ _ hmore]

theorem exec_gxRar (sessInfo : SSessionInfo) (reqInfo : Option SRequestInfo)
    (vectActive listAbonRules : List SDBAbonRule) (listTrigger : Option (List Int32))
    {s : Answering AnswerState} (hs : s.AllSucceed) :
    ∃ avps, exec (pcrfClientGxRar sessInfo reqInfo (some vectActive) (some listAbonRules)
          listTrigger) s =
        (some (), { s with
          state :=
            { store :=
                insertAll sessInfo (issuedFor sessInfo.uiPeerDialect listAbonRules)
                  (closeAll sessInfo (closedFor sessInfo.uiPeerDialect (unwanted vectActive))
                    s.state.store)
              answer := avps
              sent := s.state.sent ++ [rarOf sessInfo none avps] } }) ∧
      namesIn .chargingRuleRemove avps = namedFor sessInfo.uiPeerDialect (unwanted vectActive) ∧
      namesIn .chargingRuleInstall avps =
        namedFor sessInfo.uiPeerDialect (missing listAbonRules) := by
  have hopened : Answering.AllSucceed { s with state := { s.state with answer := [] } } := hs
  obtain ⟨avps, hexec, hremoved, hinstalled⟩ :=
    effect_putChanges sessInfo reqInfo vectActive listAbonRules listTrigger _ hopened
  exact ⟨avps, exec_gxRar_of_putChanges hs hexec, hremoved, hinstalled⟩

/-! ### The turn of a session -/

section

variable {env : RefreshEnv} {refQueue : SRefQueue} {sessionId : String} {msg : SMsgDataForDB}

theorem fromCache_sessInfo {st : SessionCacheState} {cachedId : String} {before : SMsgDataForDB}
    (h : before.fromCache st cachedId = some msg) :
    ∃ record, msg.soSessInfo = before.soSessInfo.fillFrom cachedId record := by
  simp only [SMsgDataForDB.fromCache, pcrfSessionCacheGet] at h
  cases hrecord : st.umapSessionCache cachedId with
  | none => simp [hrecord] at h
  | some record =>
    simp only [hrecord, Option.map_some, Option.some.injEq] at h
    exact ⟨record, h ▸ rfl⟩

theorem completeProcera_dialect (env : RefreshEnv) (msg : SMsgDataForDB) :
    (env.completeProcera msg).soSessInfo.uiPeerDialect = msg.soSessInfo.uiPeerDialect := by
  simp only [RefreshEnv.completeProcera]
  split
  next core _ =>
    cases hcore : msg.fromCache env.sessionCache core.strSessionId with
    | none => rfl
    | some filled =>
      obtain ⟨record, hrecord⟩ := fromCache_sessInfo hcore
      simp [hrecord, SSessionInfo.fillFrom]
  next => rfl

/-- Except for a Procera, what is known of a session is filed under its own number. -/
theorem loadSession_sessionId (hmsg : env.loadSession sessionId = some msg)
    (hd : msg.soSessInfo.uiPeerDialect ≠ .gxProcera) :
    msg.soSessInfo.strSessionId = sessionId := by
  simp only [RefreshEnv.loadSession, Option.bind_eq_bind, Option.bind_eq_some_iff] at hmsg
  obtain ⟨loaded, hloaded, sessInfo, hdialect, hmsg⟩ := hmsg
  obtain ⟨record, hrecord⟩ := fromCache_sessInfo hloaded
  have hsid : sessInfo.strSessionId = sessionId := by
    obtain ⟨peer, -, rfl⟩ := Option.map_eq_some_iff.mp hdialect
    simp [hrecord, SSessionInfo.fillFrom]
  split at hmsg
  -- the core session of a Procera does not change its dialect
  next hprocera =>
    obtain rfl := Option.some.inj hmsg
    exact absurd ((completeProcera_dialect env _).trans hprocera) hd
  next =>
    obtain rfl := Option.some.inj hmsg
    exact hsid

/-- The rules that the session rule cache lists for a session. -/
def RefreshState.rulesOf (st : RefreshState) (sessionId : String) : List String :=
  st.answering.state.store.rulesOf sessionId

/-- The turn of a session sends a request for the changes, if there are any, and leaves the
session with the wanted rules and every other session with its own. -/
structure SessionRefreshed (sessionId : String) (wanted : List String)
    (before after : RefreshState) : Prop where
  quiet : (∀ name, name ∈ before.rulesOf sessionId ↔ name ∈ wanted) → after.sent = before.sent
  request : ¬ (∀ name, name ∈ before.rulesOf sessionId ↔ name ∈ wanted) →
    ∃ rar, after.sent = before.sent ++ [rar] ∧ rar.sessionId = sessionId ∧
      RulesReconciled sessionId (before.rulesOf sessionId) wanted rar.avps
        after.answering.state.store
  holds : ∀ name, name ∈ after.rulesOf sessionId ↔ name ∈ wanted
  others : ∀ other, other ≠ sessionId → after.rulesOf other = before.rulesOf other

/-- A request with the changes between two lists that differ does so. -/
theorem send_refreshed (sessInfo : SSessionInfo) (reqInfo : Option SRequestInfo)
    {listAbonRules : List SDBAbonRule} (hfresh : Fresh listAbonRules)
    (hd : sessInfo.uiPeerDialect.isIPCAN = true) (hsid : 0 < sessInfo.strSessionId.length)
    (hwanted : ∀ name ∈ ruleNames listAbonRules, 0 < name.length) {before after : RefreshState}
    (hheld : ∀ name ∈ before.rulesOf sessInfo.strSessionId, 0 < name.length)
    (hs : before.answering.AllSucceed)
    (hdiffer : ¬ ∀ name, name ∈ before.rulesOf sessInfo.strSessionId ↔
      name ∈ ruleNames listAbonRules) {listTrigger : List Int32}
    (hafter :
      let marked := pcrfServerSelectNotrelevantActive listAbonRules (pcrfSessionRuleCacheGet
        before.answering.state.store.mapSessRuleLst sessInfo.strSessionId)
      after.answering.state = (exec (pcrfClientGxRar sessInfo reqInfo (some marked.2)
        (some marked.1) (some listTrigger)) before.answering).2.state) :
    SessionRefreshed sessInfo.strSessionId (ruleNames listAbonRules) before after := by
  let held := before.rulesOf sessInfo.strSessionId
  -- the marks on the two lists are what is to be removed and what is to be added
  have hremoved := unwanted_marked listAbonRules
    (show ∀ rule ∈ pcrfSessionRuleCacheGet before.answering.state.store.mapSessRuleLst
      sessInfo.strSessionId, rule.isRelevant = false by simp [pcrfSessionRuleCacheGet])
  have hmissing := missing_marked (pcrfSessionRuleCacheGet
    before.answering.state.store.mapSessRuleLst sessInfo.strSessionId)
    fun rule hrule => (hfresh rule hrule).1
  rw [ruleNames_get] at hremoved hmissing
  obtain ⟨avps, hexec, hcrr, hcri⟩ := exec_gxRar sessInfo reqInfo _ _ (some listTrigger) hs
  have hstate := hafter.trans (congrArg (fun outcome => outcome.2.state) hexec)
  have htakes := takesRules_of_isIPCAN hd
  simp only [namedFor, closedFor, htakes, Bool.true_or, if_true, hremoved, hmissing]
    at hstate hcrr hcri
  -- what is closed and issued while the request is built
  have hrules (other : String) : after.rulesOf other =
      if other = sessInfo.strSessionId then Reconcile.outcome held (ruleNames listAbonRules)
      else before.rulesOf other := by
    have hnames := ruleNames_marked listAbonRules (pcrfSessionRuleCacheGet
      before.answering.state.store.mapSessRuleLst sessInfo.strSessionId)
    have hclosed := rulesOf_closed_issued hsid (Reconcile.removed held (ruleNames listAbonRules))
      (hnames ▸ hwanted) (by rw [htakes]; rfl) before.answering.state.store other
    -- no rule of the session is without a name
    have hnamed : (held.filter fun name =>
        name ∉ Reconcile.removed held (ruleNames listAbonRules) ∨ name.length = 0) =
        held.filter (· ∉ Reconcile.removed held (ruleNames listAbonRules)) :=
      List.filter_congr fun name hname => by simp [Nat.ne_of_gt (hheld name hname)]
    rw [hmissing] at hclosed
    refine (congrArg (fun state => state.store.rulesOf other) hstate).trans (hclosed.trans ?_)
    exact if_congr Iff.rfl (congrArg (· ++ _) hnamed) rfl
  have hholds (name : String) : name ∈ after.rulesOf sessInfo.strSessionId ↔
      name ∈ ruleNames listAbonRules := by
    rw [hrules, if_pos rfl, Reconcile.mem_outcome]
  exact
    { quiet := fun hsame => absurd hsame hdiffer
      request := fun _ =>
        ⟨_, congrArg AnswerState.sent hstate, rfl,
          { removed := fun name => by rw [← Reconcile.mem_removed]; exact hcrr ▸ Iff.rfl
            installed := fun name => by rw [← Reconcile.mem_added]; exact hcri ▸ Iff.rfl
            holds := hholds }⟩
      holds := hholds
      others := fun other hother => by rw [hrules, if_neg hother] }

theorem updateRules_refreshed {k : Nat} {listAbonRules : List SDBAbonRule}
    (hfresh : Fresh listAbonRules) (hd : msg.soSessInfo.uiPeerDialect.isIPCAN = true)
    (hsid : 0 < msg.soSessInfo.strSessionId.length)
    (hwanted : ∀ name ∈ ruleNames listAbonRules, 0 < name.length) {st : RefreshState}
    (hheld : ∀ name ∈ st.rulesOf msg.soSessInfo.strSessionId, 0 < name.length)
    (hs : st.answering.AllSucceed) :
    SessionRefreshed msg.soSessInfo.strSessionId (ruleNames listAbonRules) st
      (env.updateRules k msg listAbonRules st) := by
  have hchanges := isAnyChanges_marked st.answering.state.store.mapSessRuleLst
    msg.soSessInfo.strSessionId hfresh
  simp only [RefreshEnv.updateRules]
  generalize (pcrfServerDbMonitKey _ _ _).2 = mapMonitInfo
  split
  next hyes =>
    exact send_refreshed { msg.soSessInfo with mapMonitInfo } (some msg.soReqInfo) hfresh hd hsid
      hwanted hheld hs (hchanges.mp hyes) rfl
  next hno =>
    have hsame := not_not.mp (mt hchanges.mpr hno)
    exact
      { quiet := fun _ => rfl
        request := fun hdiffer => absurd hsame hdiffer
        holds := hsame
        others := fun _ _ => rfl }

/-- The names of the rules that the database gives for the session at place `k` and that are in
the cache of rules. -/
def RefreshEnv.wantedRules (env : RefreshEnv) (k : Nat) (msg : SMsgDataForDB) : List String :=
  ruleNames (env.abonRules k msg)

/-- A refresh brings every session of a connected UGW or Ericsson that it comes to up to date:
it comes to those before which no session was selected whose peer is not connected. -/
theorem refresh_reconciles_reached {s : Answering AnswerState} {list : List String} {k : Nat}
    (hlist : pcrfClientDbLoadSessionList env refQueue = (0, list))
    (hk : list[k]? = some sessionId)
    (hreached : ∀ earlier ∈ list.take k, env.Passes earlier)
    (hmsg : env.loadSession sessionId = some msg)
    (hd : msg.soSessInfo.uiPeerDialect.isIPCAN = true)
    (hconn : pcrfPeerIsConnected env.vectPeerList msg.soSessInfo ≠ 0)
    (hstay : refQueue.abortsSession = false) (hsid : 0 < sessionId.length)
    (hne : env.wantedRules k msg ≠ []) (hwanted : ∀ name ∈ env.wantedRules k msg, 0 < name.length)
    (hheld : ∀ name ∈ (env.turn refQueue list s k).rulesOf sessionId, 0 < name.length)
    (hs : s.AllSucceed) :
    SessionRefreshed sessionId (env.wantedRules k msg) (env.turn refQueue list s k)
        (env.turn refQueue list s (k + 1)) ∧
      (env.turn refQueue list s (k + 1)).sent <+:
        (pcrfClientOperateRefqueueRecord env refQueue s).2.sent := by
  classical
  have hown := loadSession_sessionId hmsg (ne_procera_of_isIPCAN hd)
  have hlt : k < list.length := (List.getElem?_eq_some_iff.mp hk).1
  refine ⟨?_, operateRefqueueRecord_turn hlist ▸ turn_sent_prefix list hlt⟩
  have hsome : (env.abonRules k msg).isEmpty = false := by
    simpa [RefreshEnv.wantedRules, ruleNames] using hne
  rw [turn_succ env refQueue s hk, if_pos hreached]
  simp only [RefreshEnv.refreshSession, hmsg, hconn, hstay, hsome, if_false, Bool.false_eq_true]
  have hfresh : Fresh (env.abonRules k msg) := createAbonRuleList_fresh _ _ _
  subst hown
  exact updateRules_refreshed hfresh hd hsid hwanted hheld (turn_succeeds list hs k)

end

/-- A database that answers with the rule `a`. -/
def oneRuleDb : RefreshDb where
  sessionList _ _ := ([], none)
  subRules _ _ _ := .answered "a\t\n" none
  monitKey _ _ _ := { processQuota := fun _ => .ok ⟨.empty, .empty, .empty⟩ }

/-- Two sessions of one subscriber; the peer of the first is not connected. -/
def twoSessionsEnv : RefreshEnv where
  sessionCache :=
    { umapSessionCache :=
        (Store.set Store.empty "gx;1;1"
          { coSubscriberId := .of "7", coOriginHost := .of "ugw1", coOriginRealm := .of "net" }).set
          "gx;2;1"
          { coSubscriberId := .of "7", coOriginHost := .of "ugw2", coOriginRealm := .of "net" }
      mapSubscriberId := Store.set Store.empty "7" ["gx;1;1", "gx;2;1"] }
  vectPeerList :=
    [{ coHostName := .of "ugw1", coHostReal := .of "net", uiPeerDialect := .gxHwUgw },
     { coHostName := .of "ugw2", coHostReal := .of "net", uiPeerDialect := .gxHwUgw
       iIsConnected := 1 }]
  ruleCache := .ofRows [{ strRuleName := "a" }]
  pcoDBConn := some oneRuleDb

/-- Neither session has rules, and no call will fail. -/
def withoutRules : Answering AnswerState := { answers := fun _ => true, state := {} }

/-- The second session as the refresh finds it. -/
def secondSession : SMsgDataForDB :=
  (twoSessionsEnv.loadSession "gx;2;1").get (by decide)

/-- The peers of both sessions are connected. -/
def bothConnectedEnv : RefreshEnv :=
  { twoSessionsEnv with
    vectPeerList := twoSessionsEnv.vectPeerList.map ({ · with iIsConnected := 1 }) }

/-- The second session holds the rule `c`. -/
def secondHoldsRule : Answering AnswerState where
  answers := fun _ => true
  state := { store := { mapSessRuleLst := Store.set Store.empty "gx;2;1" ["c"] } }

/-- Refreshed behind the first session, the second one gets the rule for the one it holds. -/
theorem second_session_refreshed :
    let entry := SRefQueue.make "7" (some "subscriber_id") none
    let list := ["gx;1;1", "gx;2;1"]
    (bothConnectedEnv.turn entry list secondHoldsRule 1).rulesOf "gx;2;1" = ["c"] ∧
      SessionRefreshed "gx;2;1" ["a"] (bothConnectedEnv.turn entry list secondHoldsRule 1)
        (bothConnectedEnv.turn entry list secondHoldsRule 2) ∧
      (bothConnectedEnv.turn entry list secondHoldsRule 2).sent <+:
        (pcrfClientOperateRefqueueRecord bothConnectedEnv entry secondHoldsRule).2.sent := by
  intro entry list
  have hmsg : bothConnectedEnv.loadSession "gx;2;1" =
      some ((bothConnectedEnv.loadSession "gx;2;1").get (by decide)) := (Option.some_get _).symm
  have hwanted : bothConnectedEnv.wantedRules 1
      ((bothConnectedEnv.loadSession "gx;2;1").get (by decide)) = ["a"] := by decide
  have hheld : (bothConnectedEnv.turn entry list secondHoldsRule 1).rulesOf "gx;2;1" = ["c"] := by
    decide +kernel
  -- the first session passes, and is sent its rule before
  have hfirst : bothConnectedEnv.Passes "gx;1;1" :=
    (refreshSession_code bothConnectedEnv entry 0 "gx;1;1" { answering := secondHoldsRule }).mp
      (by decide)
  have hreached : ∀ earlier ∈ list.take 1, bothConnectedEnv.Passes earlier := by
    intro earlier hmem
    rw [List.mem_singleton.mp hmem]
    exact hfirst
  have hrefreshed := refresh_reconciles_reached (show pcrfClientDbLoadSessionList bothConnectedEnv
    entry = (0, list) by decide) (show list[1]? = some "gx;2;1" from rfl) hreached hmsg (by decide)
    (by decide) (by decide) (by decide) (by rw [hwanted]; simp) (by rw [hwanted]; decide)
    (by rw [hheld]; decide) (show secondHoldsRule.AllSucceed from rfl)
  rw [hwanted] at hrefreshed
  exact ⟨hheld, hrefreshed⟩

/-- Refreshed with its subscriber, it does not: the refresh ends at the first session. -/
theorem second_session_not_reached :
    let entry := SRefQueue.make "7" (some "subscriber_id") none
    let list := ["gx;1;1", "gx;2;1"]
    pcrfClientDbLoadSessionList twoSessionsEnv entry = (0, list) ∧
      twoSessionsEnv.loadSession "gx;2;1" = some secondSession ∧
      secondSession.soSessInfo.uiPeerDialect = .gxHwUgw ∧
      pcrfPeerIsConnected twoSessionsEnv.vectPeerList secondSession.soSessInfo ≠ 0 ∧
      twoSessionsEnv.wantedRules 1 secondSession = ["a"] ∧
      ¬ SessionRefreshed "gx;2;1" ["a"] (twoSessionsEnv.turn entry list withoutRules 1)
        (twoSessionsEnv.turn entry list withoutRules 2) := by
  refine ⟨by decide, (Option.some_get _).symm, by decide, by decide, by decide, fun h => ?_⟩
  exact absurd ((h.holds "a").mpr (by decide)) (by decide)

end Pcrf
