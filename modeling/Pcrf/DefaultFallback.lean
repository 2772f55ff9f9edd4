import Pcrf.CreditControlRules

/-!
What a new session gets when the data of its subscriber was not gathered: the default rules
selected for it, and a refresh of the subscriber that gives it its own rules later.
-/

namespace Pcrf

open Lib CallM

/-! ### Default rules that can be installed -/

/-- The default rules that are selected for a new session. -/
def SMsgDataForDB.defaultRules (msg : SMsgDataForDB) (env : GatherEnv) : List String :=
  pcrfDrsGetDefaultRuleList env.mapDefaultRule msg.soReqInfo.soUserEnvironment
    msg.soSessInfo.uiPeerDialect

/-- A peer of the dialect can be given every default rule that was selected: the rules are in
the cache of rules, an SCE takes a single one and some dialects take none. -/
def Installable (cache : RuleCache) (dialect : PeerDialect) (selected own : List String) : Prop :=
  match dialect with
  | .gxHwUgw | .gxProcera | .gxEricssn =>
    ∀ name ∈ selected, name ∈ own ∨ pcrfRuleCacheGetRuleInfo cache name ≠ none
  | .gxCiscoSce =>
    ∀ name ∈ selected, pcrfRuleCacheGetRuleInfo cache name ≠ none ∧
      ∀ other ∈ selected, other = name
  | .gxUndef | .rxIms | .unsupported _ => selected = []

section

variable {cache : RuleCache} {dialect : PeerDialect} {selected : List String}
  {own : List SDBAbonRule}

theorem mem_ruleNames_loadRuleInfo {name : String} :
    name ∈ ruleNames (loadRuleInfo cache selected own) ↔
      name ∈ ruleNames own ∨ name ∈ selected ∧ pcrfRuleCacheGetRuleInfo cache name ≠ none := by
  simp only [ruleNames, loadRuleInfo, List.map_append, List.mem_append, List.mem_map,
    List.mem_filterMap]
  refine or_congr_right ⟨?_, ?_⟩
  · rintro ⟨rule, ⟨asked, hasked, hrule⟩, rfl⟩
    -- a rule is stored under its own name
    obtain rfl := (cache.loaded asked rule hrule).1
    exact ⟨hasked, by simp [hrule]⟩
  · rintro ⟨hname, hknown⟩
    obtain ⟨rule, hrule⟩ := Option.ne_none_iff_exists'.mp hknown
    exact ⟨rule, ⟨name, hname, hrule⟩, (cache.loaded name rule hrule).1⟩

theorem loadRuleInfo_eq (hd : dialect ≠ .gxCiscoSce) :
    pcrfServerLoadRuleInfo cache selected dialect own = loadRuleInfo cache selected own := by
  simp only [pcrfServerLoadRuleInfo]
  split
  next hempty => simp [List.isEmpty_iff.mp hempty, loadRuleInfo]
  next =>
    split
    · exact absurd rfl hd
    · rfl

/-- An SCE is given one of the rules, if there are any. -/
theorem loadRuleInfo_sce (cache : RuleCache) (selected : List String) :
    loadRuleInfo cache selected [] = [] ∧
        pcrfServerLoadRuleInfo cache selected .gxCiscoSce [] = [] ∨
      ∃ rule ∈ loadRuleInfo cache selected [],
        pcrfServerLoadRuleInfo cache selected .gxCiscoSce [] = [rule] := by
  simp only [pcrfServerLoadRuleInfo]
  split
  next hempty => exact .inl ⟨by simp [List.isEmpty_iff.mp hempty, loadRuleInfo], rfl⟩
  next =>
    split
    next first others _ hloaded =>
      exact .inr ⟨_, hloaded ▸ preferredRule_mem first others, rfl⟩
    next hnone =>
      cases hloaded : loadRuleInfo cache selected [] with
      | nil => exact .inl ⟨rfl, rfl⟩
      | cons first others => exact absurd hloaded (hnone first others rfl)

theorem sce_default_iff :
    (∀ name, name ∈ ruleNames (pcrfServerLoadRuleInfo cache selected .gxCiscoSce []) ↔
        name ∈ selected) ↔ Installable cache .gxCiscoSce selected [] := by
  have hloaded (name : String) : name ∈ ruleNames (loadRuleInfo cache selected []) ↔
      name ∈ selected ∧ pcrfRuleCacheGetRuleInfo cache name ≠ none :=
    mem_ruleNames_loadRuleInfo.trans (or_iff_right List.not_mem_nil)
  simp only [Installable]
  rcases loadRuleInfo_sce cache selected with ⟨hnone, hlist⟩ | ⟨rule, hrule, hlist⟩
  · -- nothing was loaded, so the selected rules are unknown, and there must be none
    have hunknown (name : String) (hname : name ∈ selected) :
        pcrfRuleCacheGetRuleInfo cache name = none := by
      have hnot := mt (hloaded name).mpr (by simp [hnone, ruleNames])
      exact not_not.mp fun hknown => hnot ⟨hname, hknown⟩
    rw [hlist]
    constructor
    · intro hall name hname
      exact absurd ((hall name).mpr hname) List.not_mem_nil
    · intro hall name
      refine iff_of_false List.not_mem_nil fun hname => ?_
      exact (hall name hname).1 (hunknown name hname)
  · -- one rule is given, so the selected ones are just this one
    have hone : rule.strRuleName ∈ selected ∧
        pcrfRuleCacheGetRuleInfo cache rule.strRuleName ≠ none :=
      (hloaded _).mp (List.mem_map_of_mem hrule)
    have hmem (name : String) : name ∈ ruleNames [rule] ↔ name = rule.strRuleName := by
      simp [ruleNames]
    simp only [hlist, hmem]
    constructor
    · intro hall name hname
      obtain rfl := (hall name).mpr hname
      exact ⟨hone.2, fun other hother => (hall other).mpr hother⟩
    · intro hall name
      exact ⟨fun heq => heq ▸ hone.1, fun hname => (hall _ hone.1).2 name hname⟩

/-- The rules that are issued for the default ones are just these and those the session has of
its own if and only if the default ones are installable. -/
theorem issued_default_iff (hinactive : ∀ rule ∈ own, rule.isActive = false)
    (hown : dialect ≠ .gxProcera → own = []) :
    (∀ name, name ∈ ruleNames (issuedFor dialect
          (pcrfServerLoadRuleInfo cache selected dialect own)) ↔
        name ∈ selected ∨ name ∈ ruleNames own) ↔
      Installable cache dialect selected (ruleNames own) := by
  -- neither the rules of the cache nor those of a Procera are active
  have hissued (htakes : (dialect.takesRules || dialect == .gxCiscoSce) = true) :
      issuedFor dialect (pcrfServerLoadRuleInfo cache selected dialect own) =
        pcrfServerLoadRuleInfo cache selected dialect own := by
    simp only [issuedFor, htakes, if_true]
    refine List.filter_eq_self.mpr fun rule hrule => ?_
    rcases List.mem_append.mp (mem_loadRuleInfo hrule) with hold | hnew
    · simp [hinactive rule hold]
    · obtain ⟨name, -, hname⟩ := List.mem_filterMap.mp hnew
      simp [(cache.loaded name rule hname).2.1]
  have hnamed (hd : dialect ≠ .gxCiscoSce) :
      (∀ name, name ∈ ruleNames (pcrfServerLoadRuleInfo cache selected dialect own) ↔
          name ∈ selected ∨ name ∈ ruleNames own) ↔
        ∀ name ∈ selected, name ∈ ruleNames own ∨ pcrfRuleCacheGetRuleInfo cache name ≠ none := by
    simp only [loadRuleInfo_eq hd, mem_ruleNames_loadRuleInfo]
    grind
  cases dialect with
  | gxHwUgw | gxProcera | gxEricssn =>
    rw [hissued rfl, hnamed (by simp)]
    rfl
  | gxCiscoSce =>
    obtain rfl := hown (by simp)
    rw [hissued rfl]
    simpa [ruleNames] using sce_default_iff
  | gxUndef | rxIms | unsupported =>
    obtain rfl := hown (by simp)
    simp [issuedFor, PeerDialect.takesRules, ruleNames, Installable,
      List.eq_nil_iff_forall_not_mem]
end

/-! ### The answer to a new session -/

/-- The session is given just the wanted rules: they are issued to it, and the answer names
them to a peer that is told names. -/
structure RulesInstalled (sessInfo : SSessionInfo) (wanted : List String) (before : RuleStore)
    (after : AnswerState) : Prop where
  issued : ∃ names : List String,
    after.store.sqlQueue =
      before.sqlQueue ++ names.map (SqlStatement.insertRule sessInfo.strSessionId) ∧
    ∀ name, name ∈ names ↔ name ∈ wanted
  named : sessInfo.uiPeerDialect.takesRules = true →
    ∀ name, name ∈ namesIn .chargingRuleInstall after.answer ↔ name ∈ wanted

/-- A refresh of the subscriber was queued that is handed over no earlier than `delay` after
`failedAt`. -/
structure RefreshQueued (subscriberId : String) (failedAt delay : Int)
    (before after : LocalRefreshQueue) : Prop where
  queued : ∃ tmTime, List.Perm after.entries
    ((tmTime, .make subscriberId (some "subscriber_id") none) :: before.entries)
  notEarly : ∀ now, failedAt ≤ now →
    HandsOver before after (.make subscriberId (some "subscriber_id") none) now →
    failedAt + delay ≤ now

/-- The time of the refresh is counted from 0, whatever the clock says. -/
theorem refreshQueued_iff (queue : LocalRefreshQueue) (uiRefreshDefRuleIn : Nat)
    (subscriberId : String) {iRetVal : Int} (hne : iRetVal ≠ 0) (failedAt : Int) :
    RefreshQueued subscriberId failedAt uiRefreshDefRuleIn queue
        (queueRefresh queue uiRefreshDefRuleIn subscriberId iRetVal) ↔
      uiRefreshDefRuleIn = 0 ∨ failedAt ≤ 0 := by
  simp only [queueRefresh, hne, if_false]
  constructor
  · intro h
    -- the first time at which it can be handed over
    have hfirst := h.notEarly (max failedAt (0 + uiRefreshDefRuleIn)) (le_max_left ..)
      ((handsOver_add_iff ..).mpr (le_max_right ..))
    omega
  · intro h
    refine ⟨⟨_, queue.entries_insert_perm ..⟩, fun now hnow hover => ?_⟩
    have hdue := (handsOver_add_iff ..).mp hover
    omega

section

variable {env : GatherEnv} {isProceraUsed : Bool} {uiRefreshDefRuleIn : Nat}
  {msg : SMsgDataForDB} {schedule : List Turn} {queue : LocalRefreshQueue}
  {s : Answering AnswerState} {outcome : CcrOutcome}

theorem makeUliRule_isActive (coULI : OtlValue String) (abonRule : SDBAbonRule) :
    (pcrfProceraMakeUliRule coULI abonRule).2.isActive = abonRule.isActive := by
  simp only [pcrfProceraMakeUliRule]
  repeat' split
  all_goals rfl

theorem additionalRules_inactive (msg : SMsgDataForDB) (uiActionSet : ActionSet) :
    ∀ rule ∈ msg.additionalRules uiActionSet, rule.isActive = false := by
  simp only [SMsgDataForDB.additionalRules, pcrfProceraAdditionalRules]
  split
  · simp only [List.forall_mem_append, List.forall_mem_singleton, makeUliRule_isActive]
    refine ⟨⟨⟨by simp, ?_⟩, ?_⟩, ?_⟩
    · split <;> simp
    · split
      · simp
      · split <;> simp
    · split <;> split <;> rfl
  · simp

/-- What a new session is given from a list of rules that are not active. -/
theorem initial_rulesInstalled_iff
    (hrun : msg.respond env isProceraUsed uiRefreshDefRuleIn schedule queue s = some outcome)
    (htype : msg.soReqInfo.iCCRequestType = .initialRequest) (hs : s.AllSucceed)
    (wanted : List String) :
    RulesInstalled msg.soSessInfo wanted s.state.store outcome.answering.state ↔
      ∀ name, name ∈ ruleNames (issuedFor msg.soSessInfo.uiPeerDialect
        outcome.gathered.listAbonRules) ↔ name ∈ wanted := by
  obtain ⟨-, -, -, hanswering⟩ := respond_eq_some hrun
  obtain ⟨more, hexec, -, hinstalled⟩ :=
    exec_answer (effect_answerRules_initial htype (msg.vectActive
      (pcrfServerDetermineActionSet isProceraUsed msg) s.state.store.mapSessRuleLst)) hs
  rw [hanswering, hexec]
  constructor
  · -- the statements in the queue name the issued rules, in order
    rintro ⟨⟨names, hqueue, hnames⟩, -⟩
    rw [sqlQueue_insertAll] at hqueue
    have hsame := List.map_injective_iff.mpr (fun a b hab => by simpa using hab)
      (List.append_cancel_left hqueue)
    exact hsame ▸ hnames
  · intro hnames
    refine ⟨⟨_, sqlQueue_insertAll .., hnames⟩, fun htakes name => ?_⟩
    rw [hinstalled, ← hnames name]
    simp [namedFor, issuedFor, htakes, missing]

/-- Gathering is reported as failed, the session is given just its default rules, and its
subscriber is to be refreshed later. -/
structure FellBack (env : GatherEnv) (isProceraUsed : Bool) (uiRefreshDefRuleIn : Nat)
    (msg : SMsgDataForDB) (failedAt : Int) (queue : LocalRefreshQueue) (before : RuleStore)
    (outcome : CcrOutcome) : Prop where
  failed : outcome.iRetVal ≠ 0
  rules : RulesInstalled msg.soSessInfo
    (msg.defaultRules env ++
      ruleNames (msg.additionalRules (pcrfServerDetermineActionSet isProceraUsed msg)))
    before outcome.answering.state
  refresh : RefreshQueued msg.soSessInfo.strSubscriberId failedAt uiRefreshDefRuleIn queue
    outcome.mmapLocalRefreshQueue

/-- A new session whose data was not gathered falls back if and only if the handler itself has
failed, the default rules are installable, and the refresh is not to be delayed or the clock
has not started: a failure of its worker the handler takes for an empty list of rules. -/
theorem initial_fallback_iff
    (hrun : appPcrfCcrCb env isProceraUsed uiRefreshDefRuleIn msg schedule queue s = some outcome)
    (htype : msg.soReqInfo.iCCRequestType = .initialRequest) (hs : s.AllSucceed)
    (hfail : GatherFailure (msg.gatherCall (pcrfServerDetermineActionSet isProceraUsed msg) env
      s.state.store.mapSessRuleLst) schedule) (failedAt : Int) :
    FellBack env isProceraUsed uiRefreshDefRuleIn msg failedAt queue s.state.store outcome ↔
      (env.uiMaxCCRHandlers ≤ env.uiThreadCount ∨
        TimesOut (msg.gatherCall (pcrfServerDetermineActionSet isProceraUsed msg) env
          s.state.store.mapSessRuleLst) schedule) ∧
      (uiRefreshDefRuleIn = 0 ∨ failedAt ≤ 0) ∧
      Installable env.ruleCache msg.soSessInfo.uiPeerDialect (msg.defaultRules env)
        (ruleNames (msg.additionalRules (pcrfServerDetermineActionSet isProceraUsed msg))) := by
  -- a new session reports no rules, so that storing it closes none
  rw [appPcrfCcrCb, stored_initial htype] at hrun
  obtain ⟨hreturned, hgathered, hqueue, -⟩ := respond_eq_some hrun
  have hcode := hfail.returned_nonzero_iff hreturned
  by_cases hlate : outcome.iRetVal ≠ 0
  · -- the handler has noticed: it has the default rules behind those of its own
    have hfallback := (returned_fallback hreturned (hcode.mp hlate)).2
    have hlist : outcome.gathered.listAbonRules =
        pcrfServerLoadRuleInfo env.ruleCache (msg.defaultRules env) msg.soSessInfo.uiPeerDialect
          (msg.additionalRules (pcrfServerDetermineActionSet isProceraUsed msg)) := by
      rw [hgathered, hfallback.listAbonRules]
      simp only [GatherCall.fallback, SMsgDataForDB.gatherCall, htype]
      rfl
    have hrules := initial_rulesInstalled_iff hrun htype hs (msg.defaultRules env ++
      ruleNames (msg.additionalRules (pcrfServerDetermineActionSet isProceraUsed msg)))
    simp only [hlist, List.mem_append, issued_default_iff (additionalRules_inactive _ _)
      additionalRules_eq_nil] at hrules
    have hrefresh := refreshQueued_iff queue uiRefreshDefRuleIn msg.soSessInfo.strSubscriberId
      hlate failedAt
    rw [← hqueue] at hrefresh
    rw [← hrules, ← hrefresh]
    exact ⟨fun h => ⟨hcode.mp hlate, h.refresh, h.rules⟩, fun h => ⟨hlate, h.2.2, h.2.1⟩⟩
  · -- the handler has taken the failure of its worker for a success
    exact iff_of_false (fun h => hlate h.failed) (fun h => hlate (hcode.mpr h.1))

end

/-- One default rule, which the cache of rules has, and no slot for a worker. -/
def defaultEnv : GatherEnv where
  uiMaxCCRHandlers := 0
  mapDefaultRule := [{ strRuleName := "d" }]
  ruleCache := .ofRows [{ strRuleName := "d" }]
  pcoDBConn := none

/-- A new session of a UGW. -/
def newSession : SMsgDataForDB where
  soSessInfo := { uiPeerDialect := .gxHwUgw, strSessionId := "gx;1;1", strSubscriberId := "7" }
  soReqInfo := { iCCRequestType := .initialRequest }

/-- The handler is alone and takes its steps to the end. -/
def newSessionOutcome (uiRefreshDefRuleIn : Nat) : Option CcrOutcome :=
  appPcrfCcrCb defaultEnv false uiRefreshDefRuleIn newSession (List.replicate 3 .handler)
    Multimap.empty { answers := fun _ => true, state := {} }

/-- With a refresh at once, the session is given its default rule. -/
theorem newSession_falls_back :
    ∃ outcome, newSessionOutcome 0 = some outcome ∧
      FellBack defaultEnv false 0 newSession 1000 Multimap.empty {} outcome := by
  have hrun := (Option.some_get (show (newSessionOutcome 0).isSome = true by decide)).symm
  refine ⟨_, hrun, (initial_fallback_iff hrun rfl rfl (.limit (by decide)) 1000).mpr
    ⟨.inl (by decide), .inl rfl, ?_⟩⟩
  show ∀ name ∈ ["d"], _
  simp only [List.forall_mem_singleton]
  exact .inr (by decide)

/-- A refresh that is to be made 600 seconds after 1000 is handed over at 1000. -/
theorem newSession_refreshed_at_once :
    GatherFailure (newSession.gatherCall (pcrfServerDetermineActionSet false newSession)
        defaultEnv Store.empty) (List.replicate 3 .handler) ∧
    ∃ outcome, newSessionOutcome 600 = some outcome ∧
      ¬ FellBack defaultEnv false 600 newSession 1000 Multimap.empty {} outcome := by
  have hrun := (Option.some_get (show (newSessionOutcome 600).isSome = true by decide)).symm
  refine ⟨.limit (by decide), _, hrun, fun h => ?_⟩
  have hover := h.refresh.notEarly 1000 le_rfl
    ((handsOver_add_iff Multimap.empty 600 "7" (some "subscriber_id") none 1000).mpr (by decide))
  exact absurd hover (by decide)

end Pcrf
