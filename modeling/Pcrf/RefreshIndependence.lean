import Pcrf.RefreshRules

/-!
Whether a session is refreshed as if it were the only one of its entry. The flag for monitoring
keys is carried from one session to the next, and with it the trigger for reports of usage.
-/

namespace Pcrf

open Lib CallM

/-! ### The triggers of a request -/

theorem triggersIn_map (listTrigger : List Int32) :
    triggersIn (listTrigger.map fun trigId => .leaf .eventTrigger (.i32 trigId)) =
      listTrigger := by
  induction listTrigger with
  | nil => rfl
  | cons trigId listTrigger ih => exact congrArg (List.cons trigId) ih

/-- The request that is sent has just the triggers that were put into it. -/
theorem gxRar_triggers (sessInfo : SSessionInfo) (reqInfo : Option SRequestInfo)
    (vectActive listAbonRules : List SDBAbonRule) (listTrigger : List Int32)
    {s : Answering AnswerState} (hs : s.AllSucceed) :
    ∃ avps, (exec (pcrfClientGxRar sessInfo reqInfo (some vectActive) (some listAbonRules)
          (some listTrigger)) s).2.state.sent = s.state.sent ++ [rarOf sessInfo none avps] ∧
      triggersIn avps = listTrigger := by
  have hopened : Answering.AllSucceed { s with state := { s.state with answer := [] } } := hs
  obtain ⟨avps, hexec, -, -⟩ :=
    effect_putChanges sessInfo reqInfo vectActive listAbonRules (some listTrigger) _ hopened
  refine ⟨avps, ?_, ?_⟩
  · exact congrArg (fun outcome => outcome.2.state.sent) (exec_gxRar_of_putChanges hs hexec)
  · -- what follows the triggers adds none
    have hrest := (frame_putRules overlooks_triggers sessInfo reqInfo (some vectActive)
      (some listAbonRules)).keeps (withMore { s with state := { s.state with answer := [] } }
        s.state.store (listTrigger.map fun trigId => .leaf .eventTrigger (.i32 trigId)))
    have hput : exec (putChanges sessInfo reqInfo (some vectActive) (some listAbonRules)
        (some listTrigger)) { s with state := { s.state with answer := [] } } = _ :=
      exec_bind_some (exec_putTriggers listTrigger hopened)
    rw [← hput, hexec] at hrest
    simpa [withMore, triggersIn_map] using hrest

/-! ### The turn of a session -/

/-- Some rule has a monitoring key. -/
def hasMonitKeys (listAbonRules : List SDBAbonRule) : Bool :=
  listAbonRules.any fun rule => !rule.vectMonitKey.isEmpty

theorem hasMonitKeys_marked (listAbonRules vectActive : List SDBAbonRule) :
    hasMonitKeys (pcrfServerSelectNotrelevantActive listAbonRules vectActive).1 =
      hasMonitKeys listAbonRules := by
  simp only [hasMonitKeys, selectNotrelevantActive_eq, List.any_map]
  refine congrArg (List.any listAbonRules) (funext fun rule => ?_)
  by_cases hname : rule.strRuleName ∈ ruleNames vectActive <;> simp [hname]

namespace RefreshEnv

variable (env : RefreshEnv) (refQueue : SRefQueue)

/-- The rules that a session should have and those that it has, with their marks. -/
def marked (k : Nat) (msg : SMsgDataForDB) (store : RuleStore) :
    List SDBAbonRule × List SDBAbonRule :=
  pcrfServerSelectNotrelevantActive (env.abonRules k msg)
    (pcrfSessionRuleCacheGet store.mapSessRuleLst msg.soSessInfo.strSessionId)

/-- The turn of the session at place `k` comes to a request for changes. -/
structure Updates (k : Nat) (sessionId : String) (store : RuleStore) (msg : SMsgDataForDB) :
    Prop where
  loaded : env.loadSession sessionId = some msg
  connected : pcrfPeerIsConnected env.vectPeerList msg.soSessInfo ≠ 0
  stays : refQueue.abortsSession = false
  ruled : (env.abonRules k msg).isEmpty = false
  changed : pcrfClientIsAnyChanges (env.marked k msg store).2 (env.marked k msg store).1 = true

/-- The request for changes. -/
def updateRar (k : Nat) (msg : SMsgDataForDB) (store : RuleStore) (bMKInstalled : Bool) :
    FdM Unit :=
  let marked := env.marked k msg store
  let mapMonitInfo := (pcrfServerDbMonitKey (env.pcoDBConn.map (·.monitKey k))
    msg.soSessInfo.strSubscriberId (pcrfMakeMkList marked.1 msg.soSessInfo.mapMonitInfo)).2
  pcrfClientGxRar { msg.soSessInfo with mapMonitInfo } (some msg.soReqInfo) (some marked.2)
    (some marked.1) (some (refreshTriggers msg.soSessInfo.uiPeerDialect bMKInstalled))

/-- The database answers what it answers from place `k` on. -/
def fromPlace (k : Nat) : RefreshEnv :=
  { env with
    pcoDBConn := env.pcoDBConn.map fun db =>
      { db with
        subRules := fun i => db.subRules (k + i)
        monitKey := fun i => db.monitKey (k + i) } }

end RefreshEnv

/-- The entry, had it selected this session alone. -/
def SRefQueue.forSession (refQueue : SRefQueue) (sessionId : String) : SRefQueue :=
  { refQueue with strIdentifier := sessionId, strIdentifierType := "session_id" }

section

variable {env : RefreshEnv} {refQueue : SRefQueue}

theorem updateRules_eq (k : Nat) (msg : SMsgDataForDB) (st : RefreshState) :
    env.updateRules k msg (env.abonRules k msg) st =
      let store := st.answering.state.store
      let bMKInstalled := st.bMKInstalled || hasMonitKeys (env.abonRules k msg)
      if pcrfClientIsAnyChanges (env.marked k msg store).2 (env.marked k msg store).1 then
        RefreshState.send { st with bMKInstalled } (env.updateRar k msg store bMKInstalled)
      else st := by
  rw [← hasMonitKeys_marked (env.abonRules k msg) (pcrfSessionRuleCacheGet
    st.answering.state.store.mapSessRuleLst msg.soSessInfo.strSessionId)]
  rfl

theorem refreshSession_of_updates {k : Nat} {sessionId : String} {st : RefreshState}
    {msg : SMsgDataForDB}
    (h : env.Updates refQueue k sessionId st.answering.state.store msg) :
    (env.refreshSession refQueue k sessionId st).2 =
      let bMKInstalled := st.bMKInstalled || hasMonitKeys (env.abonRules k msg)
      RefreshState.send { st with bMKInstalled }
        (env.updateRar k msg st.answering.state.store bMKInstalled) := by
  simp only [RefreshEnv.refreshSession, h.loaded, h.connected, h.stays, h.ruled, if_false,
    Bool.false_eq_true]
  rw [updateRules_eq, if_pos h.changed]

/-- Without a request for changes the flag is not looked at, and stays. -/
theorem refreshSession_of_no_update {k : Nat} {sessionId : String} {st : RefreshState}
    (h : ∀ msg, ¬env.Updates refQueue k sessionId st.answering.state.store msg)
    (bMKInstalled : Bool) :
    (env.refreshSession refQueue k sessionId { st with bMKInstalled }).2 =
      { (env.refreshSession refQueue k sessionId st).2 with bMKInstalled } := by
  simp only [RefreshEnv.refreshSession]
  cases hmsg : env.loadSession sessionId with
  | none => rfl
  | some msg =>
    dsimp only
    split
    next => rfl
    next hconn =>
      split
      next => rfl
      next hstay =>
        split
        next => rfl
        next hruled =>
          have hsame : pcrfClientIsAnyChanges
              (env.marked k msg st.answering.state.store).2
              (env.marked k msg st.answering.state.store).1 ≠ true := fun hchanged =>
            h msg ⟨hmsg, hconn, by simpa using hstay, by simpa using hruled, hchanged⟩
          simp only [updateRules_eq, hsame, if_false, Bool.false_eq_true]

theorem bMKInstalled_refreshSession (k : Nat) (sessionId : String) (st : RefreshState) :
    (env.refreshSession refQueue k sessionId st).2.bMKInstalled = true ↔
      st.bMKInstalled = true ∨
        ∃ msg, env.Updates refQueue k sessionId st.answering.state.store msg ∧
          hasMonitKeys (env.abonRules k msg) = true := by
  by_cases hupdates : ∃ msg, env.Updates refQueue k sessionId st.answering.state.store msg
  · obtain ⟨msg, hmsg⟩ := hupdates
    have hflag : (env.refreshSession refQueue k sessionId st).2.bMKInstalled =
        (st.bMKInstalled || hasMonitKeys (env.abonRules k msg)) :=
      congrArg RefreshState.bMKInstalled (refreshSession_of_updates hmsg)
    rw [hflag, Bool.or_eq_true]
    refine or_congr_right ⟨fun h => ⟨msg, hmsg, h⟩, fun ⟨msg', hmsg', h⟩ => ?_⟩
    obtain rfl := Option.some.inj (hmsg.loaded.symm.trans hmsg'.loaded)
    exact h
  · have hnone := not_exists.mp hupdates
    have hflag : (env.refreshSession refQueue k sessionId st).2.bMKInstalled =
        st.bMKInstalled := by
      have hstays := refreshSession_of_no_update hnone st.bMKInstalled
      rw [show { st with bMKInstalled := st.bMKInstalled } = st from rfl] at hstays
      rw [hstays]
    rw [hflag]
    exact ⟨.inl, fun h => h.resolve_right fun ⟨msg, hmsg, _⟩ => hnone msg hmsg⟩

/-! ### The sessions of a list -/

variable {s : Answering AnswerState}

/-- The loop comes to place `k`, and there to a request for changes. -/
def RefreshEnv.UpdatesAt (env : RefreshEnv) (refQueue : SRefQueue) (list : List String)
    (s : Answering AnswerState) (k : Nat) (msg : SMsgDataForDB) : Prop :=
  (∀ earlier ∈ list.take k, env.Passes earlier) ∧
    ∃ sessionId, list[k]? = some sessionId ∧
      env.Updates refQueue k sessionId (env.turn refQueue list s k).answering.state.store msg

theorem updatesAt_iff {list : List String} {k : Nat} {sessionId : String}
    {msg : SMsgDataForDB} (hk : list[k]? = some sessionId)
    (hreached : ∀ earlier ∈ list.take k, env.Passes earlier) :
    env.UpdatesAt refQueue list s k msg ↔
      env.Updates refQueue k sessionId (env.turn refQueue list s k).answering.state.store msg := by
  refine ⟨fun ⟨_, sessionId', hk', h⟩ => ?_, fun h => ⟨hreached, sessionId, hk, h⟩⟩
  obtain rfl := Option.some.inj (hk.symm.trans hk')
  exact h

/-- The flag tells whether some session before was brought up to date with monitoring keys. -/
theorem bMKInstalled_turn (list : List String) (k : Nat) :
    (env.turn refQueue list s k).bMKInstalled = true ↔
      ∃ j < k, ∃ msg, env.UpdatesAt refQueue list s j msg ∧
        hasMonitKeys (env.abonRules j msg) = true := by
  classical
  induction k with
  | zero => simp [RefreshEnv.turn, RefreshEnv.refreshSessions]
  | succ k ih =>
    rw [Nat.exists_lt_succ_right, ← ih]
    cases hk : list[k]? with
    | none =>
      -- the list has ended
      have htake : list.take (k + 1) = list.take k := by
        have hlength := List.getElem?_eq_none_iff.mp hk
        rw [List.take_of_length_le hlength, List.take_of_length_le (Nat.le_succ_of_le hlength)]
      rw [RefreshEnv.turn, htake]
      simp [RefreshEnv.UpdatesAt, hk, RefreshEnv.turn]
    | some sessionId =>
      rw [turn_succ env refQueue s hk]
      split
      next hreached =>
        rw [bMKInstalled_refreshSession]
        exact or_congr_right (exists_congr fun msg =>
          and_congr_left' (updatesAt_iff hk hreached).symm)
      next hstopped =>
        refine (or_iff_left ?_).symm
        rintro ⟨msg, hmsg, -⟩
        exact hstopped hmsg.1

/-- Refreshing the entry for this session alone is its turn, with the flag cleared. -/
theorem operateRefqueueRecord_forSession (k : Nat) (sessionId : String)
    (s : Answering AnswerState) :
    (pcrfClientOperateRefqueueRecord (env.fromPlace k) (refQueue.forSession sessionId) s).2 =
      (env.refreshSession refQueue k sessionId { answering := s }).2 := by
  have hsession : (env.fromPlace k).refreshSession (refQueue.forSession sessionId) 0 sessionId
      { answering := s } = env.refreshSession refQueue k sessionId { answering := s } := by
    obtain ⟨sessionCache, vectPeerList, ruleCache, pcoDBConn⟩ := env
    cases pcoDBConn <;> rfl
  have hlist : pcrfClientDbLoadSessionList (env.fromPlace k) (refQueue.forSession sessionId) =
      (0, [sessionId]) := by
    simp [pcrfClientDbLoadSessionList, SRefQueue.forSession]
  simp only [pcrfClientOperateRefqueueRecord, hlist, RefreshEnv.refreshSessions]
  rw [← hsession]
  split
  next heq => exact congrArg Prod.snd heq |>.symm
  next heq => exact congrArg Prod.snd heq |>.symm

/-- Every session that the loop comes to gets the requests that it would have got if the entry
had selected it alone, whatever the calls of its turn answer. -/
def RefreshedAlike (env : RefreshEnv) (refQueue : SRefQueue) (s : Answering AnswerState) :
    Prop :=
  ∀ list, pcrfClientDbLoadSessionList env refQueue = (0, list) →
    ∀ k sessionId, list[k]? = some sessionId → (∀ earlier ∈ list.take k, env.Passes earlier) →
      ∀ answers,
        let st := env.turn refQueue list s k
        let there : Answering AnswerState := { st.answering with answers }
        (env.refreshSession refQueue k sessionId { st with answering := there }).2.sent =
          (pcrfClientOperateRefqueueRecord (env.fromPlace k) (refQueue.forSession sessionId)
            there).2.sent

/-- After a session with monitoring keys, a session that is brought up to date has monitoring
keys too, or a dialect without reports of usage. -/
def KeysAlike (env : RefreshEnv) (refQueue : SRefQueue) (s : Answering AnswerState) : Prop :=
  ∀ list, pcrfClientDbLoadSessionList env refQueue = (0, list) →
    ∀ j k earlier msg, j < k → env.UpdatesAt refQueue list s j earlier →
      hasMonitKeys (env.abonRules j earlier) = true → env.UpdatesAt refQueue list s k msg →
        hasMonitKeys (env.abonRules k msg) = true ∨
          msg.soSessInfo.uiPeerDialect.usageReport = []

theorem refreshTriggers_eq_iff (uiPeerDialect : PeerDialect) :
    refreshTriggers uiPeerDialect true = refreshTriggers uiPeerDialect false ↔
      uiPeerDialect.usageReport = [] := by
  simp [refreshTriggers]

theorem updateRar_sent (env : RefreshEnv) (k : Nat) (msg : SMsgDataForDB) (store : RuleStore)
    (bMKInstalled : Bool) {there : Answering AnswerState} (hs : there.AllSucceed) :
    ∃ rar, (exec (tolerate (env.updateRar k msg store bMKInstalled)) there).2.state.sent =
        there.state.sent ++ [rar] ∧
      triggersIn rar.avps = refreshTriggers msg.soSessInfo.uiPeerDialect bMKInstalled := by
  obtain ⟨avps, hsent, htriggers⟩ := gxRar_triggers _ _ _ _ _ hs
  exact ⟨_, hsent, htriggers⟩

/-- With the flag set the session gets one trigger more, where its dialect has it. -/
theorem updateRar_alike_iff (env : RefreshEnv) (k : Nat) (msg : SMsgDataForDB)
    (state : AnswerState) (bMKInstalled own : Bool) :
    (∀ answers,
      (exec (tolerate (env.updateRar k msg state.store (bMKInstalled || own)))
          { answers, state }).2.state.sent =
        (exec (tolerate (env.updateRar k msg state.store own)) { answers, state }).2.state.sent) ↔
      (bMKInstalled = true → own = true ∨ msg.soSessInfo.uiPeerDialect.usageReport = []) := by
  constructor
  · rintro hall rfl
    by_contra hnot
    obtain ⟨hown, husage⟩ := not_or.mp hnot
    rw [Bool.not_eq_true] at hown
    subst hown
    -- with calls that all succeed both requests are sent, with other triggers
    have hsame := hall fun _ => true
    have hs : Answering.AllSucceed { answers := fun _ => true, state } := rfl
    obtain ⟨rar, hsent, htriggers⟩ := updateRar_sent env k msg state.store true hs
    obtain ⟨alone, hsent', htriggers'⟩ := updateRar_sent env k msg state.store false hs
    rw [Bool.or_false, hsent, hsent'] at hsame
    obtain rfl := List.singleton_inj.mp (List.append_cancel_left hsame)
    exact husage ((refreshTriggers_eq_iff _).mp (htriggers.symm.trans htriggers'))
  · intro himp answers
    cases bMKInstalled with
    | false => rw [Bool.false_or]
    | true =>
      rcases himp rfl with hown | husage
      · rw [hown, Bool.or_true]
      · cases own with
        | true => rfl
        | false =>
          simp only [RefreshEnv.updateRar, Bool.or_false, (refreshTriggers_eq_iff _).mpr husage]

/-- The sessions of every entry are refreshed as if they were alone exactly when none comes
without monitoring keys after one that has them. -/
theorem refreshedAlike_iff : RefreshedAlike env refQueue s ↔ KeysAlike env refQueue s := by
  have hturn {k : Nat} {sessionId : String} {state : AnswerState} {msg : SMsgDataForDB}
      (h : env.Updates refQueue k sessionId state.store msg) (bMKInstalled : Bool)
      (answers : Nat → Bool) :
      (env.refreshSession refQueue k sessionId
          { bMKInstalled, answering := { answers, state } }).2.sent =
        (exec (tolerate (env.updateRar k msg state.store
          (bMKInstalled || hasMonitKeys (env.abonRules k msg)))) { answers, state }).2.state.sent :=
    congrArg RefreshState.sent (refreshSession_of_updates h)
  simp only [RefreshedAlike, operateRefqueueRecord_forSession]
  constructor
  · intro hall list hlist j k earlier msg hlt hearlier hkeys hupdates
    obtain ⟨hreached, sessionId, hk, hmsg⟩ := hupdates
    refine (updateRar_alike_iff env k msg (env.turn refQueue list s k).answering.state _ _).mp
      (fun answers => ?_) ((bMKInstalled_turn list k).mpr ⟨j, hlt, earlier, hearlier, hkeys⟩)
    have hsame := hall list hlist k sessionId hk hreached answers
    rw [hturn hmsg, hturn hmsg, Bool.false_or] at hsame
    exact hsame
  · intro halike list hlist k sessionId hk hreached answers
    by_cases hupdates : ∃ msg, env.Updates refQueue k sessionId
        (env.turn refQueue list s k).answering.state.store msg
    · obtain ⟨msg, hmsg⟩ := hupdates
      rw [hturn hmsg, hturn hmsg, Bool.false_or]
      refine (updateRar_alike_iff env k msg _ _ _).mpr (fun hset => ?_) answers
      obtain ⟨j, hlt, earlier, hearlier, hkeys⟩ := (bMKInstalled_turn list k).mp hset
      exact halike list hlist j k earlier msg hlt hearlier hkeys
        ((updatesAt_iff hk hreached).mpr hmsg)
    · let alone : RefreshState :=
        { answering := { (env.turn refQueue list s k).answering with answers } }
      have hnone (msg : SMsgDataForDB) :
          ¬env.Updates refQueue k sessionId alone.answering.state.store msg :=
        not_exists.mp hupdates msg
      have hsame := congrArg RefreshState.sent
        (refreshSession_of_no_update hnone (env.turn refQueue list s k).bMKInstalled)
      exact hsame

end

/-- The first session gets the rule `a`, which has a monitoring key, and the second `b`, which
has none. -/
def keyedThenPlainEnv : RefreshEnv where
  sessionCache :=
    { umapSessionCache :=
        (Store.set Store.empty "gx;1;1"
          { coSubscriberId := .of "7", coOriginHost := .of "ugw", coOriginRealm := .of "net" }).set
          "gx;2;1"
          { coSubscriberId := .of "7", coOriginHost := .of "ugw", coOriginRealm := .of "net" }
      mapSubscriberId := Store.set Store.empty "7" ["gx;1;1", "gx;2;1"] }
  vectPeerList :=
    [{ coHostName := .of "ugw", coHostReal := .of "net", uiPeerDialect := .gxHwUgw
       iIsConnected := 1 }]
  ruleCache := .ofRows [{ strRuleName := "a", vectMonitKey := ["gold"] }, { strRuleName := "b" }]
  pcoDBConn := some
    { sessionList := fun _ _ => ([], none)
      subRules := fun k _ _ => .answered (if k = 0 then "a\t\n" else "b\t\n") none
      monitKey := fun _ _ _ => { processQuota := fun _ => .ok ⟨.empty, .empty, .empty⟩ } }

/-- The second session is told to report usage, though none of its rules has a key. -/
theorem not_refreshedAlike_keyedThenPlain :
    ¬RefreshedAlike keyedThenPlainEnv (.make "7" (some "subscriber_id") none) withoutRules := by
  intro h
  let entry := SRefQueue.make "7" (some "subscriber_id") none
  have hfirst : keyedThenPlainEnv.Passes "gx;1;1" :=
    (refreshSession_code keyedThenPlainEnv entry 0 "gx;1;1" { answering := withoutRules }).mp
      (by decide +kernel)
  have hreached : ∀ earlier ∈ ["gx;1;1", "gx;2;1"].take 1, keyedThenPlainEnv.Passes earlier :=
    List.forall_mem_singleton.mpr hfirst
  have hsame := h ["gx;1;1", "gx;2;1"] (by decide) 1 "gx;2;1" rfl hreached fun _ => true
  have htriggers := congrArg (List.map fun rar => triggersIn rar.avps) hsame
  exact absurd htriggers (by decide +kernel)

end Pcrf
