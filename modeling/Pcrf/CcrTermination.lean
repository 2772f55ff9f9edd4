import Pcrf.CcrHandlers
import Pcrf.SessionRemoval

/-!
What a CCR-T leaves of its session while CCR-Us for the same session are under way: nothing, as
long as no update comes late and the removal finds every entry.
-/

namespace Pcrf

open Lib

/-- The session is nowhere in the caches of the node. -/
structure NodeCaches.Forgets (caches : NodeCaches) (s : String) : Prop where
  sessions : caches.sessions.Forgets s
  rules : caches.rules s = none

/-- The session is not inserted after its removal, and no rule is issued to it after its rules were
dropped. -/
def Punctual (s : String) (history : List CallStep) : CallStep → Prop
  | .sessions (.insertLocal x _ _ _) => x = s → .sessions (.removeLocal s) ∉ history
  | .rules (.insertLocal x _) => x = s → .rules (.removeSessLocal s) ∉ history
  | _ => True

instance (s : String) (history : List CallStep) : DecidablePred (Punctual s history)
  | .sessions (.insertLocal x _ _ _) =>
    inferInstanceAs (Decidable (x = s → .sessions (.removeLocal s) ∉ history))
  | .rules (.insertLocal x _) =>
    inferInstanceAs (Decidable (x = s → .rules (.removeSessLocal s) ∉ history))
  | .sessions (.removeLocal _) | .rules (.removeRuleLocal _ _) | .rules (.removeSessLocal _)
  | .send _ => .isTrue trivial

/-- A step that is punctual; and when it removes the session, all the entries of the session are
where it looks for them. -/
structure InTime (s : String) (caches : NodeCaches) (history : List CallStep)
    (step : CallStep) : Prop where
  punctual : Punctual s history step
  traceable : step = .sessions (.removeLocal s) → caches.sessions.Traceable s

/-- The step does not make the session the parent of another one. -/
def CallStep.SparesParent (s : String) (step : CallStep) : Prop :=
  ∀ x info parent dialect, step = .sessions (.insertLocal x info parent dialect) →
    x = s ∨ parent ≠ some s

/-! ### The caches -/

/-- What holds while the requests for a session are handled: what was removed stays so. -/
structure Terminating (s : String) (caches : NodeCaches) (history : List CallStep) : Prop where
  inverse : caches.sessions.links.Inverse
  sessions : .sessions (.removeLocal s) ∈ history → caches.sessions.Forgets s
  rules : .rules (.removeSessLocal s) ∈ history → caches.rules s = none

section Steps

variable {s : String} {caches : NodeCaches} {history : List CallStep}

theorem mem_of_mem_snoc {a b : CallStep} (mem : a ∈ history ++ [b]) (ne : a ≠ b) : a ∈ history :=
  (List.mem_append.mp mem).resolve_right fun last => ne (List.mem_singleton.mp last)

theorem Terminating.sessions_step (h : Terminating s caches history) {op : CacheOp}
    (spares : (CallStep.sessions op).SparesParent s)
    (inTime : InTime s caches history (.sessions op)) :
    Terminating s (caches.perform (.sessions op)) (history ++ [.sessions op]) where
  inverse := apply_links_inverse caches.sessions op h.inverse
  rules mem := h.rules (mem_of_mem_snoc mem nofun)
  sessions mem := by
    by_cases own : op.sessionId = s
    · cases op with
      | insertLocal x info parent dialect =>
        -- the session may be inserted only while its removal is still to come
        exact absurd (mem_of_mem_snoc mem nofun) (inTime.punctual own)
      | removeLocal x =>
        obtain rfl : x = s := own
        exact (removeLocal_forgets_iff h.inverse x).mpr (inTime.traceable rfl)
    · have removed : .sessions (.removeLocal s) ∈ history := by
        refine mem_of_mem_snoc mem fun same => own ?_
        rw [← CallStep.sessions.inj same]
        rfl
      refine apply_forgets_of_ne h.inverse (h.sessions removed) own
        fun x info parent dialect hop => ?_
      subst hop
      exact (spares x info parent dialect rfl).resolve_left own

theorem Terminating.rules_step (h : Terminating s caches history) {op : RuleCacheOp}
    (inTime : InTime s caches history (.rules op)) :
    Terminating s (caches.perform (.rules op)) (history ++ [.rules op]) where
  inverse := h.inverse
  sessions mem := h.sessions (mem_of_mem_snoc mem nofun)
  rules mem := by
    have entry : (caches.perform (.rules op)).rules s =
        Function.update caches.rules op.sessionId (op.entry (caches.rules op.sessionId)) s :=
      congrFun (SessionRuleCache.apply_eq ..) s
    rw [entry]
    by_cases own : op.sessionId = s
    · subst own
      rw [Function.update_self]
      cases op with
      | insertLocal x ruleName => exact absurd (mem_of_mem_snoc mem nofun) (inTime.punctual rfl)
      | removeRuleLocal x ruleName =>
        -- the list was dropped, and removing a rule does not bring it back
        rw [h.rules (mem_of_mem_snoc mem nofun)]
        rfl
      | removeSessLocal x => rfl
    · rw [Function.update_of_ne (Ne.symm own)]
      refine h.rules (mem_of_mem_snoc mem fun same => own ?_)
      rw [← CallStep.rules.inj same]
      rfl

theorem Terminating.step (h : Terminating s caches history) {step : CallStep}
    (spares : step.SparesParent s) (inTime : InTime s caches history step) :
    Terminating s (caches.perform step) (history ++ [step]) := by
  cases step with
  | sessions op => exact h.sessions_step spares inTime
  | rules op => exact h.rules_step inTime
  | send command =>
    exact ⟨h.inverse, fun mem => h.sessions (mem_of_mem_snoc mem nofun),
      fun mem => h.rules (mem_of_mem_snoc mem nofun)⟩

end Steps

/-! ### The handlers -/

section Handlers

variable {s : String}

/-- Steps on the rule cache and commands spare every session. -/
theorem sparesParent_of_kind {step : CallStep} (h : step.kind ≠ .sessions) :
    step.SparesParent s := by
  rintro x info parent dialect rfl
  exact absurd rfl h

theorem kind_ruleSteps {codes : IpcCodes} {sessionId ruleName : String} {step : CallStep}
    (h : step ∈ sessionRuleCacheInsertSteps codes sessionId ruleName ∨
      step ∈ sessionRuleCacheRemoveRuleSteps codes sessionId ruleName) :
    step.kind ≠ .sessions := by
  unfold sessionRuleCacheInsertSteps sessionRuleCacheRemoveRuleSteps at h
  split at h
  · simp only [List.mem_cons, List.not_mem_nil, or_false] at h
    rcases h with (rfl | rfl) | rfl | rfl <;> nofun
  · simp at h

theorem kind_policySteps {codes : IpcCodes} {msg : SMsgDataForDB} {step : CallStep}
    (h : step ∈ msg.policySteps codes) : step.kind ≠ .sessions := by
  obtain ⟨info, -, mem⟩ := List.mem_flatMap.mp h
  exact kind_ruleSteps (.inr mem)

/-- The statements of an answer change the rule cache only. -/
theorem kind_statementSteps {codes : IpcCodes} {statements : List SqlStatement} {step : CallStep}
    (h : step ∈ statements.flatMap (SqlStatement.steps codes)) : step.kind ≠ .sessions := by
  obtain ⟨statement, -, mem⟩ := List.mem_flatMap.mp h
  cases statement with
  | insertRule sessionId ruleName => exact kind_ruleSteps (.inl mem)
  | closeRule sessionId ruleName code => exact kind_ruleSteps (.inr mem)
  | closeRuleAll sessionId => cases mem
  | storeUsageInfoOffline subscriberId usage => cases mem

/-- Only the insertion of the session itself has to do with its links. -/
theorem answerSteps_spare {env : CcrEnv} {update : CcrUpdate} {msg : SMsgDataForDB}
    {parent : Option String} {vectActive : List SDBAbonRule} {gathered : Gathered}
    (h : msg.soSessInfo.strSessionId = s ∨ parent ≠ some s) :
    ∀ step ∈ update.answerSteps env msg parent vectActive gathered, step.SparesParent s := by
  intro step mem
  unfold CcrUpdate.answerSteps at mem
  split at mem
  · cases List.mem_append.mp mem with
    | inl inserted =>
      rintro x info parent' dialect rfl
      split at inserted
      · unfold pcrfSessionCacheInsert at inserted
        split at inserted
        · simp only [List.mem_cons, List.not_mem_nil, or_false, reduceCtorEq, false_or] at inserted
          cases inserted
          exact h
        · cases inserted
      · cases inserted
    | inr rules => exact sparesParent_of_kind (kind_statementSteps rules)
  · cases mem

/-- A request keeps its session id, unless it had none. -/
theorem fillFrom_sessionId (msg : SMsgDataForDB) (sessions : SessionCacheState) (x : String) :
    (msg.fillFrom sessions x).soSessInfo.strSessionId = msg.soSessInfo.strSessionId ∨
      (msg.fillFrom sessions x).soSessInfo.strSessionId = x := by
  unfold SMsgDataForDB.fillFrom pcrfSessionCacheGet
  cases sessions.umapSessionCache x with
  | none => exact .inl rfl
  | some record =>
    simp only [Option.map_some, SSessionInfo.fillFrom]
    split
    · exact .inr rfl
    · exact .inl rfl

theorem corrected_sessionId (msg : SMsgDataForDB) :
    msg.corrected.soSessInfo.strSessionId = msg.soSessInfo.strSessionId := by
  unfold SMsgDataForDB.corrected
  split <;> rfl

theorem all_findCoreSess {p : CallStep → Prop} {address : String}
    {next : Option SSessionInfo → CcrProgram} (h : ∀ info, (next info).All p) :
    (findCoreSess address next).All p := by
  intro caches
  dsimp only
  split
  · exact fun caches => h _
  · exact h none

/-- A core session becomes the parent of the session, and not of itself. -/
theorem all_coreSession {p : CallStep → Prop} {msg : SMsgDataForDB}
    {next : SMsgDataForDB → Option String → Bool → CcrProgram}
    (own : msg.soSessInfo.strSessionId = s)
    (h : ∀ msg parent found, msg.soSessInfo.strSessionId = s ∨ parent ≠ some s →
      (next msg parent found).All p) : (coreSession msg next).All p := by
  have complete (core : String) (caches : NodeCaches) :
      (next (msg.fillFrom caches.sessions core) (some core) true).All p := by
    refine h _ _ _ ?_
    cases fillFrom_sessionId msg caches.sessions core with
    | inl same => exact .inl (same.trans own)
    | inr taken =>
      -- a core session with the id of the session is the session itself
      by_cases hcore : core = s
      · exact .inl (taken.trans hcore)
      · exact .inr fun same => hcore (Option.some.inj same)
  unfold coreSession
  split
  · refine all_findCoreSess fun info => ?_
    cases info with
    | none => exact h _ _ _ (.inl own)
    | some core =>
      dsimp only
      split
      · exact fun caches => complete core.strSessionId caches
      · exact h _ _ _ (.inl own)
  · refine all_findCoreSess fun info => ?_
    cases info with
    | none => exact h _ _ _ (.inl own)
    | some core => exact fun caches => complete core.strSessionId caches
  · exact h _ _ _ (.inl own)

theorem updateProgram_spares {env : CcrEnv} {update : CcrUpdate}
    (same : update.request.soSessInfo.strSessionId = s) :
    (env.updateProgram update).All (CallStep.SparesParent s) := by
  intro caches
  have own := (corrected_sessionId update.request).trans same
  have filled : (update.request.corrected.fillFrom caches.sessions
      update.request.corrected.soSessInfo.strSessionId).soSessInfo.strSessionId = s :=
    (or_self_iff.mp (fillFrom_sessionId ..)).trans own
  refine all_coreSession filled fun msg parent found spares => ?_
  refine Program.all_makes (fun step mem => sparesParent_of_kind (kind_policySteps mem)) ?_
  have finish (vectActive : List SDBAbonRule) (gathered : Gathered) :
      (Program.makes (update.answerSteps env msg parent vectActive gathered)
        (.done : CcrProgram)).All (CallStep.SparesParent s) :=
    Program.all_makes (answerSteps_spare spares) trivial
  dsimp only
  split
  · split
    · exact fun caches => finish _ _
    · exact finish _ _
  · exact finish _ _

theorem terminationProgram_spares (env : CcrEnv) (request : SMsgDataForDB) :
    (env.terminationProgram request).All (CallStep.SparesParent s) := by
  have finish (msg : SMsgDataForDB) :
      (Program.makes (pcrfSessionCacheRemove env.codes msg.soSessInfo.strSessionId ++
        msg.policySteps env.codes) (.done : CcrProgram)).All (CallStep.SparesParent s) := by
    refine Program.all_makes (fun step mem => ?_) trivial
    cases List.mem_append.mp mem with
    | inl removal =>
      rintro x info parent dialect rfl
      simp [pcrfSessionCacheRemove] at removal
    | inr policy => exact sparesParent_of_kind (kind_policySteps policy)
  unfold CcrEnv.terminationProgram
  dsimp only
  split
  · exact fun caches => finish _
  · exact finish _

/-- A CCR-T removes its session from both caches. -/
theorem terminationProgram_removes {env : CcrEnv} {request : SMsgDataForDB} {step : CallStep}
    (same : request.soSessInfo.strSessionId = s)
    (h : step = .sessions (.removeLocal s) ∨ step = .rules (.removeSessLocal s)) :
    (env.terminationProgram request).WillMake step := by
  have own := (corrected_sessionId request).trans same
  have finish (msg : SMsgDataForDB) (id : msg.soSessInfo.strSessionId = s) :
      (Program.makes (pcrfSessionCacheRemove env.codes msg.soSessInfo.strSessionId ++
        msg.policySteps env.codes) (.done : CcrProgram)).WillMake step := by
    refine Program.willMake_makes (List.mem_append_left _ ?_) _
    rcases h with rfl | rfl <;> simp [pcrfSessionCacheRemove, id]
  unfold CcrEnv.terminationProgram
  dsimp only
  split
  · exact fun caches => finish _ ((or_self_iff.mp (fillFrom_sessionId ..)).trans own)
  · exact finish _ own

end Handlers

/-- When every step of a run is in time, the session is nowhere in the caches once the handlers of
its CCR-T and its CCR-Us have finished. -/
theorem terminated_forgotten {env : CcrEnv} {termination : SMsgDataForDB}
    {updates : List CcrUpdate} {s : String} (same : termination.soSessInfo.strSessionId = s)
    (updates_same : ∀ update ∈ updates, update.request.soSessInfo.strSessionId = s)
    {ops : List CacheOp} {rules : SessionRuleCache} {turns : List Nat}
    (meets : (env.machine ⟨sessionCacheMachine.run ops, rules⟩ termination updates).Meets
      (SideBySide.MakesOnly (InTime s)) turns)
    (finished : ∀ program ∈
      ((env.machine ⟨sessionCacheMachine.run ops, rules⟩ termination updates).run turns).programs,
      program.isDone = true) :
    ((env.machine ⟨sessionCacheMachine.run ops, rules⟩ termination updates).run
      turns).state.Forgets s := by
  have all : ∀ program ∈ env.terminationProgram termination :: updates.map env.updateProgram,
      program.All (CallStep.SparesParent s) := by
    intro program mem
    cases List.mem_cons.mp mem with
    | inl first => exact first ▸ terminationProgram_spares env termination
    | inr others =>
      obtain ⟨update, known, rfl⟩ := List.mem_map.mp others
      exact updateProgram_spares (updates_same update known)
  have start : Terminating s ⟨sessionCacheMachine.run ops, rules⟩ [] :=
    ⟨run_links_inverse ops, nofun, nofun⟩
  have inv := SideBySide.inv_of_makesOnly all start
    (fun _ _ _ h spares inTime => h.step spares inTime) meets
  have made {step : CallStep}
      (h : step = .sessions (.removeLocal s) ∨ step = .rules (.removeSessLocal s)) :=
    SideBySide.made_of_done (List.mem_cons_self ..)
      (@terminationProgram_removes s env termination step same h) finished
  exact ⟨inv.sessions (made (.inl rfl)), inv.rules (made (.inr rfl))⟩

/-! ### An update that is late -/

def sampleCcrEnv : CcrEnv where
  codes := sampleCodes
  pcrfPeerDialectRet _ _ := .gxHwUgw

def sampleCcr (iCCRequestType : CCRequestType) (vectEventTrigger : List Int32) :
    SMsgDataForDB where
  soSessInfo :=
    { uiPeerDialect := .gxHwUgw
      strSessionId := "gx;1;1"
      coOriginHost := .of "ugw1" }
  soReqInfo := { iCCRequestType, vectEventTrigger }

/-- USER_LOCATION_CHANGE: the session is inserted again. -/
def sampleUpdate : CcrUpdate where
  request := sampleCcr .updateRequest [13]
  gather msg _ :=
    { uiActionSet := pcrfServerDetermineActionSet false msg
      mapMonitInfo := msg.soSessInfo.mapMonitInfo }

/-- The session of the samples is cached, with an address and a subscriber. -/
def sampleCached : List CacheOp :=
  [.insertLocal "gx;1;1"
    { coSubscriberId := .of "7", coFramedIPAddr := .of "10.1.2.3", coOriginHost := .of "ugw1" }
    none .gxHwUgw]

/-- The run of the samples. -/
def sampleHandlers (turns : List Nat) : SideBySide NodeCaches CallStep :=
  (sampleCcrEnv.machine ⟨sessionCacheMachine.run sampleCached, Store.empty⟩
    (sampleCcr .terminationRequest []) [sampleUpdate]).run turns

theorem eq_of_mem_entries_set {k a s x : String}
    (h : s ∈ Index.entries (Store.set Store.empty k [x]) a) : k = a := by
  by_contra ne
  rw [Index.entries, Store.set_of_ne (Ne.symm ne)] at h
  cases h

theorem makesOnly_inTime {s : String} {handlers : SideBySide NodeCaches CallStep} {i : Nat}
    (punctual : ∀ step ∈ handlers.nextStep i, Punctual s handlers.history step)
    (traceable : handlers.nextStep i = some (.sessions (.removeLocal s)) →
      handlers.state.sessions.Traceable s) :
    SideBySide.MakesOnly (InTime s) handlers i :=
  fun step next => ⟨punctual step next, fun removal => traceable (removal ▸ next)⟩

/-- The update is done before the termination starts. -/
theorem terminated_forgotten_sample :
    (sampleHandlers [1, 1, 1, 0, 0, 0]).state.Forgets "gx;1;1" := by
  refine terminated_forgotten rfl (by simp [sampleUpdate, sampleCcr])
    ⟨?_, ?_, ?_, ?_, ?_, ?_, trivial⟩ (by decide +kernel)
  case refine_4 =>
    refine makesOnly_inTime (by decide +kernel) fun _ => ⟨fun a mem => ?_, fun a mem => ?_, ?_⟩
    · exact ⟨_, rfl, eq_of_mem_entries_set mem⟩
    · exact ⟨_, rfl, rfl, eq_of_mem_entries_set mem⟩
    · exact .inl rfl
  all_goals
    exact makesOnly_inTime (by decide +kernel) fun removal => absurd removal (by decide +kernel)

/-- The update has read the session when the termination removes it, and inserts it again. -/
theorem terminated_forgotten_counterexample :
    let s := sampleHandlers [1, 0, 0, 0, 1, 1]
    (∀ program ∈ s.programs, program.isDone = true) ∧ ¬ s.state.Forgets "gx;1;1" := by
  refine ⟨by decide +kernel, fun forgets => ?_⟩
  exact absurd forgets.sessions.cached (by decide +kernel)

end Pcrf
