import Pcrf.RefreshTurns
import Pcrf.UmiRarSessions
import Pcrf.UsageMonitoring

/-!
What `pcrf_send_umi_rar` sends to the sessions of a subscriber, to have the usage of monitoring
keys reported: the requests are built like those that grant quotas, and a key without a quota is
passed over there.
-/

namespace Pcrf

open Lib CallM

/-- The Re-Auth-Requests of calls; a failure is only logged. -/
def sendRequests : List SessionCall → FdM Unit
  | [] => return ()
  | .gxRar sessInfo reqInfo :: calls => do
    tolerate (pcrfClientGxRar sessInfo (some reqInfo) none none none)
    sendRequests calls
  | _ :: calls => sendRequests calls

namespace LinkedEnv

/-- The requests of `pcrf_send_umi_rar`. -/
def umiRequests (env : LinkedEnv) (gxRar : SMsgDataForDB → Int) (subscriberId : String)
    (plistMonitKey : List String) : FdM Unit :=
  sendRequests
    (env.pcrfSendUmiRar gxRar (.of subscriberId) (some plistMonitKey)).2.flatten

/-- A session is sent one request, in which each key has one Usage-Monitoring-Information, and
that demands a report. -/
def ReportRequested (plistMonitKey : List String) (sent : List RarMessage) (sessionId : String) :
    Prop :=
  ∃ rar, (sent.filter fun rar => rar.sessionId = sessionId) = [rar] ∧
    ∀ key ∈ plistMonitKey, ∃ umi, umisFor key rar.avps = [umi] ∧
      leavesOf .usageMonitoringReport umi.children = [.i32 0]

/-- Every session of the subscriber is asked for the usage of the keys. -/
def RequestsReports (env : LinkedEnv) (gxRar : SMsgDataForDB → Int) (subscriberId : String)
    (plistMonitKey : List String) (s : Answering AnswerState) : Prop :=
  ∃ sent sessions,
    (exec (env.umiRequests gxRar subscriberId plistMonitKey) s).2.state.sent =
        s.state.sent ++ sent ∧
      pcrfSessionCacheGetSubscriberSessionId env.sessionCache.mapSubscriberId subscriberId =
        some sessions ∧
      ∀ sessionId ∈ sessions, ReportRequested plistMonitKey sent sessionId

end LinkedEnv

/-! ### Requests without AVPs -/

/-- Whatever the calls answer, the requests that the program sends have only the fixed head. -/
def SendsBare (x : FdM Unit) : Prop :=
  ∀ s, ∃ sent, (exec x s).2.state.sent = s.state.sent ++ sent ∧ ∀ rar ∈ sent, rar.avps = []

namespace SendsBare

variable {x y : FdM Unit}

theorem of_unsent (h : Unsent x) : SendsBare x :=
  fun s => ⟨[], by rw [h.keeps, List.append_nil], fun _ hrar => absurd hrar List.not_mem_nil⟩

theorem after_tolerate (hx : SendsBare x) (hy : SendsBare y) :
    SendsBare (tolerate x >>= fun _ => y) := by
  intro s
  obtain ⟨sent, hsent, hbare⟩ := hx s
  obtain ⟨more, hmore, hbare'⟩ := hy (exec x s).2
  refine ⟨sent ++ more, ?_, ?_⟩
  · rw [exec_bind_some (exec_tolerate x s), hmore, hsent, List.append_assoc]
  · rw [List.forall_mem_append]
    exact ⟨hbare, hbare'⟩

end SendsBare

/-- The head of a request is made in an empty message. -/
theorem newRar_answer {s s' : Answering AnswerState} (h : exec newRar s = (some (), s')) :
    s'.state.answer = [] := by
  have hcalls : Frame AnswerState.answer (calls 19 : FdM Unit) := Frame.calls 19
  rw [newRar, newMessage, exec_bind, exec_bind] at h
  cases hcall : exec (call : FdM Unit) s with
  | mk result s₁ =>
    rw [hcall] at h
    cases result with
    | none => cases h
    | some =>
      simp only [exec_update] at h
      have hkeeps := hcalls.keeps { s₁ with state := { s₁.state with answer := [] } }
      rw [h] at hkeeps
      exact hkeeps

/-- No key of the session has a quota. -/
def NoQuota (sessInfo : SSessionInfo) : Prop :=
  ∀ entry ∈ sessInfo.mapMonitInfo, entry.2.hasQuota = false

theorem gxRar_sendsBare {sessInfo : SSessionInfo} (h : NoQuota sessInfo)
    (reqInfo : Option SRequestInfo) :
    SendsBare (pcrfClientGxRar sessInfo reqInfo none none none) := by
  intro s
  have hchanges : ∀ s₁, exec (putChanges sessInfo reqInfo none none none) s₁ = (some (), s₁) := by
    intro s₁
    simp only [putChanges, putGiven, makeUMI_of_noQuota false h]
    rfl
  rw [pcrfClientGxRar, exec_bind]
  have hkeeps := unsent_newRar.keeps s
  cases hnew : exec newRar s with
  | mk result s₁ =>
    rw [hnew] at hkeeps
    cases result with
    | none =>
      exact ⟨[], by rw [hkeeps, List.append_nil], fun _ hrar => absurd hrar List.not_mem_nil⟩
    | some =>
      dsimp only
      rw [exec_bind_some (hchanges s₁), sendRar, exec_bind]
      cases hcall : exec (call : FdM Unit) s₁ with
      | mk result s₂ =>
        obtain ⟨-, rfl⟩ := Prod.mk.inj hcall
        cases result with
        | none =>
          exact ⟨[], hkeeps.trans (List.append_nil _).symm,
            fun _ hrar => absurd hrar List.not_mem_nil⟩
        | some =>
          refine ⟨_, congrArg (· ++ _) hkeeps, fun rar hrar => ?_⟩
          have hempty := newRar_answer hnew
          rw [List.mem_singleton.mp hrar]
          exact hempty

/-! ### The keys of the sessions -/

theorem insertKeys_noQuota (keys : List String) {mapMonitInfo : MonitInfoMap}
    (h : ∀ entry ∈ mapMonitInfo, entry.2.hasQuota = false) :
    ∀ entry ∈ mapMonitInfo.insertKeys keys, entry.2.hasQuota = false := by
  induction keys generalizing mapMonitInfo with
  | nil => exact h
  | cons key keys ih =>
    refine ih fun entry hentry => ?_
    rcases MonitInfoMap.mem_insert hentry with rfl | hentry
    · rfl
    · exact h entry hentry

namespace LinkedEnv

variable {env : LinkedEnv} {plistMonitKey : List String} {gxRar : SMsgDataForDB → Int}

/-- What is known of a session does not come with monitoring keys. -/
theorem umiRecord_mapMonitInfo (env : LinkedEnv) (soInfo : SMsgDataForDB) (sessionId : String) :
    (env.umiRecord soInfo sessionId).soSessInfo.mapMonitInfo = soInfo.soSessInfo.mapMonitInfo := by
  simp only [umiRecord, SMsgDataForDB.fromCache, pcrfSessionCacheGet]
  cases env.sessionCache.umapSessionCache sessionId with
  | none => rfl
  | some record => rfl

theorem umiStep_noQuota {soInfo soInfo' : SMsgDataForDB} {sessionId : String}
    (h : NoQuota soInfo.soSessInfo)
    (hstep : env.umiStep plistMonitKey soInfo sessionId = some soInfo') :
    NoQuota soInfo'.soSessInfo := by
  rw [umiStep, pcrfPeerDialect, Option.map_map] at hstep
  obtain ⟨peer, -, rfl⟩ := Option.map_eq_some_iff.mp hstep
  refine insertKeys_noQuota plistMonitKey ?_
  rw [show _ = soInfo.soSessInfo.mapMonitInfo from umiRecord_mapMonitInfo env soInfo sessionId]
  exact h

theorem umiLoop_sendsBare (iRetVal : Int) {soInfo : SMsgDataForDB}
    (h : NoQuota soInfo.soSessInfo) (vectSessionList : List String) :
    SendsBare (sendRequests
      (env.umiLoop gxRar plistMonitKey iRetVal soInfo vectSessionList).2.flatten) := by
  induction vectSessionList generalizing iRetVal soInfo with
  | nil => exact .of_unsent (Frame.pure ())
  | cons sessionId rest ih =>
    cases hstep : env.umiStep plistMonitKey soInfo sessionId with
    | none =>
      -- the loop has ended
      have hnone : (env.umiLoop gxRar plistMonitKey iRetVal soInfo
          (sessionId :: rest)).2.flatten = [] := by
        simp [umiLoop, hstep]
      rw [hnone]
      exact .of_unsent (Frame.pure ())
    | some soInfo' =>
      have hnext := umiStep_noQuota h hstep
      simp only [umiLoop, hstep, List.flatten_cons, List.singleton_append]
      exact (gxRar_sendsBare hnext _).after_tolerate (ih _ hnext)

/-- The requests of `pcrf_send_umi_rar` ask for nothing. -/
theorem umiRequests_sendsBare (env : LinkedEnv) (gxRar : SMsgDataForDB → Int)
    (subscriberId : String) (plistMonitKey : List String) :
    SendsBare (env.umiRequests gxRar subscriberId plistMonitKey) := by
  simp only [umiRequests, pcrfSendUmiRar, OtlValue.toOption, OtlValue.of, Bool.false_eq_true,
    if_false]
  split
  · exact umiLoop_sendsBare 0 (fun _ hentry => absurd hentry List.not_mem_nil) _
  · exact .of_unsent (Frame.pure ())

/-- Nothing is demanded by a request without AVPs. -/
theorem not_reportRequested {sent : List RarMessage} (hbare : ∀ rar ∈ sent, rar.avps = [])
    {key : String} (hkey : key ∈ plistMonitKey) (sessionId : String) :
    ¬ReportRequested plistMonitKey sent sessionId := by
  rintro ⟨rar, hrar, hdemanded⟩
  have hmem : rar ∈ sent :=
    (List.mem_filter.mp (hrar.symm ▸ List.mem_singleton.mpr rfl : rar ∈ sent.filter _)).1
  obtain ⟨umi, humi, -⟩ := hdemanded key hkey
  rw [hbare rar hmem] at humi
  cases humi

/-- If the usage of a key were demanded, it would be by requests without AVPs. -/
theorem RequestsReports.bare {subscriberId : String} {s : Answering AnswerState}
    (h : env.RequestsReports gxRar subscriberId plistMonitKey s) :
    ∃ sent sessions, (∀ rar ∈ sent, rar.avps = []) ∧
      pcrfSessionCacheGetSubscriberSessionId env.sessionCache.mapSubscriberId subscriberId =
        some sessions ∧
      ∀ sessionId ∈ sessions, ReportRequested plistMonitKey sent sessionId := by
  obtain ⟨sent, sessions, hsent, hsessions, heach⟩ := h
  obtain ⟨sent', hsent', hbare⟩ :=
    umiRequests_sendsBare env gxRar subscriberId plistMonitKey s
  obtain rfl := List.append_cancel_left (hsent.symm.trans hsent')
  exact ⟨sent, sessions, hbare, hsessions, heach⟩

/-- No session of a subscriber is ever asked for the usage of a key. -/
theorem not_requestsReports {subscriberId : String} {sessions : List String}
    (hsessions : pcrfSessionCacheGetSubscriberSessionId env.sessionCache.mapSubscriberId
      subscriberId = some sessions) (hsome : sessions ≠ []) (hkeys : plistMonitKey ≠ [])
    (s : Answering AnswerState) :
    ¬env.RequestsReports gxRar subscriberId plistMonitKey s := by
  intro h
  obtain ⟨sent, sessions', hbare, hsame, heach⟩ := h.bare
  obtain rfl := Option.some.inj (hsessions.symm.trans hsame)
  obtain ⟨sessionId, hsession⟩ := List.exists_mem_of_ne_nil sessions hsome
  obtain ⟨key, hkey⟩ := List.exists_mem_of_ne_nil plistMonitKey hkeys
  exact not_reportRequested hbare hkey sessionId (heach sessionId hsession)

end LinkedEnv

/-- A subscriber with a session of a UGW. -/
def aliceEnv : LinkedEnv where
  sessionCache :=
    { umapSessionCache :=
        Store.set Store.empty "gx;1" { ugwRecord with coSubscriberId := .of "alice" }
      mapSubscriberId := Store.set Store.empty "alice" ["gx;1"] }
  vectPeerList := oneUgwEnv.vectPeerList

/-- No call into freeDiameter will fail. -/
def noFailures : Answering AnswerState := { answers := fun _ => true, state := {} }

theorem not_requestsReports_alice :
    ¬aliceEnv.RequestsReports (fun _ => 0) "alice" ["gold"] noFailures := by
  have hsessions : pcrfSessionCacheGetSubscriberSessionId aliceEnv.sessionCache.mapSubscriberId
      "alice" = some ["gx;1"] := by
    decide
  exact LinkedEnv.not_requestsReports hsessions (by decide) (by decide) noFailures

/-- The session is sent its request, which says nothing of the key. -/
theorem not_reportRequested_alice :
    (aliceEnv.pcrfSendUmiRar (fun _ => 0) (.of "alice") (some ["gold"])).1 = 0 ∧
      ((exec (aliceEnv.umiRequests (fun _ => 0) "alice" ["gold"])
          noFailures).2.state.sent.map fun rar => (rar.sessionId, rar.avps.length)) =
        [("gx;1", 0)] ∧
      ¬aliceEnv.RequestsReports (fun _ => 0) "alice" ["gold"] noFailures := by
  refine ⟨by decide, by decide +kernel, ?_⟩
  intro h
  obtain ⟨sent, sessions, hbare, hsessions, heach⟩ := h.bare
  have hlist : pcrfSessionCacheGetSubscriberSessionId aliceEnv.sessionCache.mapSubscriberId
      "alice" = some ["gx;1"] := by decide
  rw [hlist, Option.some.injEq] at hsessions
  subst hsessions
  exact LinkedEnv.not_reportRequested hbare (List.mem_singleton.mpr rfl) "gx;1"
    (heach "gx;1" (List.mem_singleton.mpr rfl))

end Pcrf
