import Pcrf.CreditControlRules
import Pcrf.MessageFrames
import Pcrf.UsageMonitoring

/-!
What becomes of a quota that is granted for reported usage: it is entered into the map of
monitoring keys before the rules are loaded, and the answer is made of the map that the handler
has in the end.
-/

namespace Pcrf

open Lib CallM

/-! ### Submitting the records -/

/-- Every call that submits one of the records succeeds. -/
structure UsageOutcome.SucceedsFor (outcome : UsageOutcome)
    (vectUsageInfo : List SSessionUsageInfo) : Prop where
  opening : outcome.opening = none
  processQuota : ∀ i usage, vectUsageInfo[i]? = some usage → usage.hasUsage = true →
    ∃ answer, outcome.processQuota i usage = .ok answer
  committing : outcome.committing = none
  closing : outcome.closing = none

/-- Some value is granted. -/
def Grant.isGranted (grant : Grant) : Bool :=
  !(grant.totalOctets.isNull && grant.outputOctets.isNull && grant.inputOctets.isNull)

/-- What is kept of a grant. -/
def Grant.info (grant : Grant) : SDBMonitoringInfo where
  isReported := true
  coDosageInputOctets := grant.inputOctets
  coDosageOutputOctets := grant.outputOctets
  coDosageTotalOctets := grant.totalOctets

/-- What is kept for a key of the answer to the record at a position. -/
def UsageOutcome.kept (outcome : UsageOutcome) (vectUsageInfo : List SSessionUsageInfo)
    (key : String) (i : Nat) : Option SDBMonitoringInfo :=
  vectUsageInfo[i]?.bind fun usage =>
    if usage.hasUsage = true ∧ usage.coMonitoringKey.v = key then
      (outcome.processQuota i usage).toOption.map fun answer => answer.1.info
    else none

/-- The first `n` records have been submitted: of the answers for a key the first one is kept. -/
structure SubmittedUpTo (outcome : UsageOutcome) (vectUsageInfo : List SSessionUsageInfo)
    (n : Nat) (st : UsageState) : Prop where
  sorted : st.mapMonitInfo.Sorted
  rest : ∀ i, n ≤ i → st.vectUsageInfo[i]? = vectUsageInfo[i]?
  find : ∀ key, st.mapMonitInfo.find key =
    (List.range n).findSome? (outcome.kept vectUsageInfo key)

section Submitting

variable {outcome : UsageOutcome} {vectUsageInfo : List SSessionUsageInfo} {n : Nat}
  {st : UsageState}

theorem findSome?_range_succ {α : Type} (f : Nat → Option α) (n : Nat) :
    (List.range (n + 1)).findSome? f = ((List.range n).findSome? f).or (f n) := by
  rw [List.range_succ, List.findSome?_append, List.findSome?_singleton]

/-- The step for a record that is not submitted. -/
theorem SubmittedUpTo.skip (h : SubmittedUpTo outcome vectUsageInfo n st)
    (hkept : ∀ key, outcome.kept vectUsageInfo key n = none) :
    SubmittedUpTo outcome vectUsageInfo (n + 1) st where
  sorted := h.sorted
  rest i hi := h.rest i (Nat.le_of_succ_le hi)
  find key := by rw [h.find, findSome?_range_succ, hkept, Option.or_none]

/-- The step for the next record. -/
theorem SubmittedUpTo.step (hquota : outcome.SucceedsFor vectUsageInfo)
    (h : SubmittedUpTo outcome vectUsageInfo n st) :
    ∃ st', usageStep outcome n st = (st', none) ∧
      SubmittedUpTo outcome vectUsageInfo (n + 1) st' := by
  have hhere := h.rest n (Nat.le_refl n)
  cases hrecord : vectUsageInfo[n]? with
  | none =>
    rw [hrecord] at hhere
    refine ⟨st, by rw [usageStep, hhere], h.skip fun key => ?_⟩
    rw [UsageOutcome.kept, hrecord, Option.bind_none]
  | some usage =>
    rw [hrecord] at hhere
    cases husage : usage.hasUsage with
    | false =>
      refine ⟨st, by simp [usageStep, hhere, husage], h.skip fun key => ?_⟩
      simp [UsageOutcome.kept, hrecord, husage]
    | true =>
      obtain ⟨⟨grant, updateRule⟩, hanswer⟩ := hquota.processQuota n usage hrecord husage
      simp only [usageStep, hhere, husage, Bool.not_true, Bool.false_eq_true, if_false, hanswer]
      refine ⟨_, rfl, h.sorted.insert _ _, fun i hi => ?_, fun key => ?_⟩
      · exact (List.getElem?_set_ne (Nat.ne_of_lt hi)).trans (h.rest i (Nat.le_of_succ_le hi))
      · -- a key that was answered before keeps its answer
        have hkept : outcome.kept vectUsageInfo key n =
            if usage.coMonitoringKey.v = key then some grant.info else none := by
          simp [UsageOutcome.kept, hrecord, husage, hanswer, Except.toOption]
        rw [findSome?_range_succ, ← h.find, hkept]
        exact h.sorted.find_insert ..

theorem SubmittedUpTo.run (hquota : outcome.SucceedsFor vectUsageInfo)
    (h : SubmittedUpTo outcome vectUsageInfo n st) (m : Nat) :
    ∃ st', Attempt.forEach (usageStep outcome) (List.range' n m) st = (st', none) ∧
      SubmittedUpTo outcome vectUsageInfo (n + m) st' := by
  induction m generalizing n st with
  | zero => exact ⟨st, rfl, h⟩
  | succ m ih =>
    obtain ⟨st', hstep, hnext⟩ := h.step hquota
    obtain ⟨st'', hrun, hall⟩ := ih hnext
    refine ⟨st'', ?_, by rwa [Nat.add_assoc, Nat.add_comm 1] at hall⟩
    rw [List.range'_succ, Attempt.forEach, Attempt.andThen_of_none hstep]
    exact hrun

/-- The map of keys after a submission that succeeds at once. -/
theorem sessionUsage_submitted {query : UsageQuery} {subscriberId : String}
    (hquota : (query subscriberId 0).SucceedsFor vectUsageInfo) :
    let st := (pcrfDbSessionUsage query subscriberId { mapMonitInfo := [], vectUsageInfo }).2
    st.mapMonitInfo.Sorted ∧ ∀ key, st.mapMonitInfo.find key =
      (List.range vectUsageInfo.length).findSome?
        ((query subscriberId 0).kept vectUsageInfo key) := by
  have hstart : SubmittedUpTo (query subscriberId 0) vectUsageInfo 0
      { mapMonitInfo := [], vectUsageInfo } :=
    ⟨List.Pairwise.nil, fun _ _ => rfl, fun _ => rfl⟩
  obtain ⟨st', hrun, hall⟩ := hstart.run hquota vectUsageInfo.length
  rw [← List.range_eq_range'] at hrun
  rw [Nat.zero_add] at hall
  simp only [pcrfDbSessionUsage]
  cases hany : vectUsageInfo.any (·.hasUsage) with
  | false =>
    -- no record is submitted
    refine ⟨List.Pairwise.nil, fun key => (List.findSome?_eq_none_iff.mpr fun i _ => ?_).symm⟩
    rw [UsageOutcome.kept, Option.bind_eq_none_iff]
    intro usage husage
    rw [if_neg fun h => ?_]
    have hnone := List.any_eq_false.mp hany usage (List.mem_of_getElem? husage)
    exact hnone h.1
  | true =>
    have hattempt : usageAttempt (query subscriberId 0) { mapMonitInfo := [], vectUsageInfo } =
        ({ st' with pending := [], charged := st'.charged ++ st'.pending }, none) := by
      simp only [usageAttempt, rollback, Attempt.andThen, Attempt.throwing, hquota.opening, hrun,
        hquota.committing, commit, hquota.closing]
    rw [Attempt.repeatOnce_eq, hattempt]
    simp only [Bool.not_true, Bool.false_eq_true, if_false, Option.any_none]
    exact ⟨hall.sorted, hall.find⟩

/-- Of pairwise distinct keys each has the answer to its record. -/
theorem findSome?_kept
    (hkeys : vectUsageInfo.Pairwise fun usage later =>
      usage.coMonitoringKey.v ≠ later.coMonitoringKey.v)
    {i : Nat} {usage : SSessionUsageInfo} (hrecord : vectUsageInfo[i]? = some usage)
    (husage : usage.hasUsage = true) {grant : Grant} {updateRule : Int}
    (hanswer : outcome.processQuota i usage = .ok (grant, updateRule)) :
    (List.range vectUsageInfo.length).findSome?
      (outcome.kept vectUsageInfo usage.coMonitoringKey.v) = some grant.info := by
  have hown : outcome.kept vectUsageInfo usage.coMonitoringKey.v i = some grant.info := by
    simp [UsageOutcome.kept, hrecord, husage, hanswer, Except.toOption]
  have hin : i ∈ List.range vectUsageInfo.length :=
    List.mem_range.mpr (List.getElem?_eq_some_iff.mp hrecord).1
  cases hfound : (List.range vectUsageInfo.length).findSome?
      (outcome.kept vectUsageInfo usage.coMonitoringKey.v) with
  | none =>
    have hnone := List.findSome?_eq_none_iff.mp hfound i hin
    rw [hown] at hnone
    cases hnone
  | some info =>
    obtain ⟨j, -, hj⟩ := List.exists_of_findSome?_eq_some hfound
    obtain ⟨other, hother, hkept⟩ := Option.bind_eq_some_iff.mp hj
    split at hkept
    next hcond =>
      -- no other record has the key
      obtain rfl : j = i := by
        obtain ⟨hjlt, rfl⟩ := List.getElem?_eq_some_iff.mp hother
        obtain ⟨hilt, rfl⟩ := List.getElem?_eq_some_iff.mp hrecord
        have hdistinct := List.pairwise_iff_getElem.mp hkeys
        rcases Nat.lt_trichotomy j i with hlt | heq | hlt
        · exact absurd hcond.2 (hdistinct j i hjlt hilt hlt)
        · exact heq
        · exact absurd hcond.2.symm (hdistinct i j hilt hjlt hlt)
      rw [hown] at hj
      exact hj.symm
    next => cases hkept

end Submitting

/-! ### What is loaded later -/

/-- A map in the order of its keys, in which the keys that were reported have what they had. -/
structure MonitInfoMap.KeepsReported (before after : MonitInfoMap) : Prop where
  sorted : after.Sorted
  reported : ∀ key info, before.find key = some info → info.isReported = true →
    after.find key = some info

namespace MonitInfoMap.KeepsReported

variable {before after later : MonitInfoMap}

theorem refl (h : before.Sorted) : before.KeepsReported before := ⟨h, fun _ _ hfind _ => hfind⟩

theorem trans (h : before.KeepsReported after) (h' : after.KeepsReported later) :
    before.KeepsReported later :=
  ⟨h'.sorted, fun key info hfind hreported =>
    h'.reported key info (h.reported key info hfind hreported) hreported⟩

end MonitInfoMap.KeepsReported

section Loading

variable {mapMonitInfo : MonitInfoMap}

/-- The keys of the rules are entered behind what is there. -/
theorem makeMkList_keepsReported (h : mapMonitInfo.Sorted) (listAbonRules : List SDBAbonRule) :
    mapMonitInfo.KeepsReported (pcrfMakeMkList listAbonRules mapMonitInfo) := by
  induction listAbonRules generalizing mapMonitInfo with
  | nil => exact .refl h
  | cons rule rest ih =>
    have hrule : mapMonitInfo.KeepsReported
        (if rule.isRelevant && !rule.isActive then mapMonitInfo.insertKeys rule.vectMonitKey
          else mapMonitInfo) := by
      split
      · refine ⟨h.insertKeys _, fun key info hfind _ => ?_⟩
        rw [h.find_insertKeys, hfind, Option.some_or]
      · exact .refl h
    exact hrule.trans (ih hrule.sorted)

theorem monitKeyLoop_keys (processQuota : String → Except Failure Grant)
    (mapMonitInfo : MonitInfoMap) :
    (monitKeyLoop processQuota mapMonitInfo).1.map Prod.fst = mapMonitInfo.map Prod.fst := by
  induction mapMonitInfo with
  | nil => rfl
  | cons entry rest ih =>
    obtain ⟨key, info⟩ := entry
    simp only [monitKeyLoop]
    split
    · simp [ih]
    · split
      · rfl
      · simp [ih]

/-- The loop passes over the keys that were reported. -/
theorem monitKeyLoop_find (processQuota : String → Except Failure Grant) {key : String}
    {info : SDBMonitoringInfo} (hreported : info.isReported = true)
    (hfind : mapMonitInfo.find key = some info) :
    MonitInfoMap.find (monitKeyLoop processQuota mapMonitInfo).1 key = some info := by
  induction mapMonitInfo with
  | nil => cases hfind
  | cons entry rest ih =>
    obtain ⟨first, firstInfo⟩ := entry
    rw [MonitInfoMap.find_cons] at hfind
    simp only [monitKeyLoop]
    by_cases hkey : first = key
    · rw [if_pos hkey, Option.some.injEq] at hfind
      subst hfind
      rw [if_pos hreported, MonitInfoMap.find_cons, if_pos hkey]
    · rw [if_neg hkey] at hfind
      -- what is asked for another key does not matter
      split
      · rw [MonitInfoMap.find_cons, if_neg hkey, ih hfind]
      · split
        · rw [MonitInfoMap.find_cons, if_neg hkey, hfind]
        · rw [MonitInfoMap.find_cons, if_neg hkey, ih hfind]

theorem monitKeyLoop_keepsReported (processQuota : String → Except Failure Grant)
    (h : mapMonitInfo.Sorted) :
    mapMonitInfo.KeepsReported (monitKeyLoop processQuota mapMonitInfo).1 := by
  refine ⟨?_, fun key info hfind hreported => monitKeyLoop_find processQuota hreported hfind⟩
  have hkeys := List.pairwise_map.mpr h
  rw [← monitKeyLoop_keys processQuota] at hkeys
  exact List.pairwise_map.mp hkeys

theorem monitKeyAttempt_keepsReported (outcome : MonitKeyOutcome) (h : mapMonitInfo.Sorted) :
    mapMonitInfo.KeepsReported (monitKeyAttempt outcome mapMonitInfo).1 := by
  have hloop := monitKeyLoop_keepsReported outcome.processQuota h
  simp only [monitKeyAttempt, Attempt.andThen, Attempt.throwing]
  cases outcome.opening with
  | some failure => exact .refl h
  | none =>
    dsimp only
    cases heq : monitKeyLoop outcome.processQuota mapMonitInfo with
    | mk after failure =>
      rw [heq] at hloop
      cases failure <;> exact hloop

/-- However often the keys are asked for, the answers are for the others. -/
theorem dbMonitKey_keepsReported (h : mapMonitInfo.Sorted) (pcoDBConn : Option MonitKeyQuery)
    (subscriberId : String) :
    mapMonitInfo.KeepsReported (pcrfServerDbMonitKey pcoDBConn subscriberId mapMonitInfo).2 := by
  simp only [pcrfServerDbMonitKey]
  split
  · exact .refl h
  · cases pcoDBConn with
    | none => exact .refl h
    | some query =>
      have hattempt (k : Nat) (st : MonitInfoMap) (hst : mapMonitInfo.KeepsReported st) :
          mapMonitInfo.KeepsReported (monitKeyAttempt (query subscriberId k) st).1 :=
        hst.trans (monitKeyAttempt_keepsReported _ hst.sorted)
      have hrepeated := Attempt.repeatOnce_keeps hattempt (.refl h)
      dsimp only
      split
      next heq =>
        rw [heq] at hrepeated
        exact hrepeated
      next heq =>
        rw [heq] at hrepeated
        exact hrepeated

/-- The handler's map is empty when it takes the worker's. -/
theorem copyFrom_keepsReported {g : Gathered} (hempty : g.mapMonitInfo = [])
    (worker : Gathered) :
    worker.mapMonitInfo.KeepsReported (g.copyFrom worker).mapMonitInfo := by
  have hinserted (entries map : MonitInfoMap) (hmap : map.Sorted) :
      (entries.foldl (fun map entry => map.insert entry.1 entry.2) map).Sorted ∧
        ∀ key, MonitInfoMap.find
          (entries.foldl (fun map entry => map.insert entry.1 entry.2) map) key =
            (map.find key).or (entries.find key) := by
    induction entries generalizing map with
    | nil => exact ⟨hmap, fun key => (Option.or_none ..).symm⟩
    | cons entry entries ih =>
      obtain ⟨hsorted, hfind⟩ := ih _ (hmap.insert entry.1 entry.2)
      refine ⟨hsorted, fun key => ?_⟩
      rw [List.foldl_cons, hfind, hmap.find_insert, Option.or_assoc, MonitInfoMap.find_cons]
      by_cases hkey : entry.1 = key
      · simp [hkey]
      · simp [hkey]
  obtain ⟨hsorted, hfind⟩ := hinserted worker.mapMonitInfo [] List.Pairwise.nil
  simp only [Gathered.copyFrom, hempty]
  exact ⟨hsorted, fun key info hkey _ => (hfind key).trans hkey⟩

theorem loadRules_mapMonitInfo (cache : RuleCache) (db : DbConnection) (d : WorkerData) :
    (d.loadRules cache db).gathered.mapMonitInfo = d.gathered.mapMonitInfo := by
  simp only [WorkerData.loadRules]
  split <;> rfl

theorem markActive_mapMonitInfo (d : WorkerData) :
    d.markActive.gathered.mapMonitInfo = d.gathered.mapMonitInfo := by
  simp only [WorkerData.markActive]
  split <;> rfl

theorem loadQuota_keepsReported (db : DbConnection) (d : WorkerData)
    (h : d.gathered.mapMonitInfo.Sorted) :
    d.gathered.mapMonitInfo.KeepsReported (d.loadQuota db).gathered.mapMonitInfo := by
  simp only [WorkerData.loadQuota]
  split
  · have hkeys := makeMkList_keepsReported h d.gathered.listAbonRules
    exact hkeys.trans (dbMonitKey_keepsReported hkeys.sorted ..)
  · exact .refl h

end Loading

/-- The worker enters the answers to the records first, and what it loads later leaves them
alone. -/
theorem collected_find (call : GatherCall) {db : DbConnection} (hdb : call.pcoDBConn = some db)
    (htype : call.soData.i32CCRType = .updateRequest)
    (hreport : call.gathered.uiActionSet.updateQuota = true)
    (hquota : (db.sessionUsage call.soData.strSubscriberId 0).SucceedsFor
      call.soData.vectUsageInfo) {key : String} {info : SDBMonitoringInfo}
    (hinfo : (List.range call.soData.vectUsageInfo.length).findSome?
      ((db.sessionUsage call.soData.strSubscriberId 0).kept call.soData.vectUsageInfo key) =
        some info) (hreported : info.isReported = true) :
    call.collected.mapMonitInfo.find key = some info := by
  obtain ⟨hsorted, hfind⟩ := sessionUsage_submitted hquota
  have hsubmitted : (call.workerData.updateQuota db false).gathered.mapMonitInfo =
      (pcrfDbSessionUsage db.sessionUsage call.soData.strSubscriberId
        { mapMonitInfo := [], vectUsageInfo := call.soData.vectUsageInfo }).2.mapMonitInfo := by
    simp only [WorkerData.updateQuota, GatherCall.workerData, hreport, htype]
    rfl
  rw [← hsubmitted] at hsorted hfind
  have hkept := loadQuota_keepsReported db
    (((call.workerData.updateQuota db false).loadRules call.ruleCache db).markActive)
    (by rwa [markActive_mapMonitInfo, loadRules_mapMonitInfo])
  rw [markActive_mapMonitInfo, loadRules_mapMonitInfo] at hkept
  simp only [GatherCall.collected, GatherCall.expected, hdb, GatherCall.dataAt]
  exact hkept.reported key info ((hfind key).trans hinfo) hreported

/-! ### The answer -/

/-- When no call fails, the program puts these Usage-Monitoring-Informations for the key into the
message. -/
def PutsFor (key : String) (umis : List Avp) (x : FdM Unit) : Prop :=
  ∀ s : Answering AnswerState, s.AllSucceed → ∃ s', exec x s = (some (), s') ∧ s'.AllSucceed ∧
    umisFor key s'.state.answer = umisFor key s.state.answer ++ umis

/-- Nothing about the key is put into the message, whatever the calls answer. -/
abbrev PutsNone (key : String) (x : FdM Unit) : Prop :=
  ∀ umis, Maintains (fun st : AnswerState => umisFor key st.answer = umis) (fun _ => True) x

section Answer

variable {key : String} {umis more : List Avp} {x y : FdM Unit}

theorem PutsFor.bind (hx : PutsFor key umis x) (hy : PutsFor key more y) :
    PutsFor key (umis ++ more) (x >>= fun _ => y) := by
  intro s hs
  obtain ⟨s', hexec, hs', humis⟩ := hx s hs
  obtain ⟨s'', hexec', hs'', hmore⟩ := hy s' hs'
  exact ⟨s'', (exec_bind_some hexec).trans hexec', hs'', by
    rw [hmore, humis, List.append_assoc]⟩

theorem PutsNone.putsFor (h : PutsNone key x) {removed installed : List String}
    {f : RuleStore → RuleStore} (heffect : RuleEffect x removed installed f) :
    PutsFor key [] x := by
  intro s hs
  obtain ⟨avps, hexec, -⟩ := heffect s hs
  have hkeeps := (h _).keeps s rfl
  rw [hexec] at hkeeps
  exact ⟨_, hexec, hs, hkeeps.trans (List.append_nil _).symm⟩

/-- An AVP that is about no monitoring key. -/
theorem umisFor_append {avp : Avp} (h : avp.monitors key = false) (avps : List Avp) :
    umisFor key (avps ++ [avp]) = umisFor key avps := by
  simp [umisFor, h]

variable {msg : SMsgDataForDB} {gathered : Gathered}

theorem putsFor_makeUMI (key : String) (isNeedUMR : Bool) (mapMonitInfo : MonitInfoMap) :
    PutsFor key (umisFor key (mapMonitInfo.umis isNeedUMR))
      (tolerate (pcrfMakeUMI isNeedUMR mapMonitInfo)) := by
  intro s hs
  refine ⟨withMore s s.state.store (mapMonitInfo.umis isNeedUMR), ?_, hs, List.filter_append ..⟩
  rw [exec_tolerate, exec_makeUMI isNeedUMR mapMonitInfo hs]

theorem putsFor_makeCRR (key : String) (vectActive : List SDBAbonRule) :
    PutsFor key [] (putMade (pcrfMakeCRR msg.soSessInfo vectActive)) := by
  refine PutsNone.putsFor (fun umis => maintains_putMade ?_
    (maintains_makeCRR _ _ fun _ _ hst => hst)) (effect_makeCRR _ _)
  rintro _ ⟨children, rfl⟩ st hst
  exact (umisFor_append rfl _).trans hst

theorem putsFor_makeCRI (key : String) (listAbonRules : List SDBAbonRule) :
    PutsFor key []
      (putMade (pcrfMakeCRI msg.soSessInfo (some msg.soReqInfo) listAbonRules)) := by
  refine PutsNone.putsFor (fun umis => maintains_putMade ?_
    (maintains_makeCRI _ _ _ (fun _ _ hst => hst)
      fun _ _ _ hst => (umisFor_append rfl _).trans hst)) (effect_makeCRI _ _ _)
  rintro _ ⟨children, rfl⟩ st hst
  exact (umisFor_append rfl _).trans hst

theorem putsFor_answerTriggers (key : String) (gathered : Gathered) :
    PutsFor key [] (msg.answerTriggers gathered) := by
  refine PutsNone.putsFor (fun umis => ?_) (effect_answerTriggers _ _)
  simp only [SMsgDataForDB.answerTriggers]
  split
  · exact maintains_putTriggers (I := fun st => umisFor key st.answer = umis)
      (fun _ _ hst => (umisFor_append rfl _).trans hst) _
  · exact Maintains.pure trivial

/-- The answer to an update has the AVPs of the keys that were gathered. -/
theorem umisFor_answer (htype : msg.soReqInfo.iCCRequestType = .updateRequest)
    (vectActive : List SDBAbonRule) {s : Answering AnswerState} (hs : s.AllSucceed)
    (key : String) :
    umisFor key (exec (msg.answer vectActive gathered) s).2.state.answer =
      umisFor key (gathered.mapMonitInfo.umis false) := by
  have hrules : PutsFor key (umisFor key (gathered.mapMonitInfo.umis false))
      (msg.answerRules vectActive gathered) := by
    have hUMI := putsFor_makeUMI key false gathered.mapMonitInfo
    simp only [SMsgDataForDB.answerRules, htype]
    cases gathered.uiActionSet.operateRule with
    | true => exact (putsFor_makeCRR key vectActive).bind ((putsFor_makeCRI key _).bind hUMI)
    | false => exact hUMI
  obtain ⟨s', hexec, -, humis⟩ := hrules.bind (putsFor_answerTriggers key gathered) _
    (show Answering.AllSucceed { s with state := { s.state with answer := [] } } from hs)
  rw [SMsgDataForDB.answer, exec_bind_some (exec_newMessage hs), hexec]
  exact humis.trans (List.append_nil _)

end Answer

/-! ### Granted quotas -/

/-- Granted-Service-Unit has the total, or without one the values for the two directions. -/
def Grant.octets (grant : Grant) : List Avp :=
  match grant.totalOctets.toOption with
  | some total => [.leaf .ccTotalOctets (.u64 total)]
  | none =>
    avpOf grant.inputOctets .ccInputOctets .u64 ++ avpOf grant.outputOctets .ccOutputOctets .u64

/-- Usage-Monitoring-Information that grants a quota, without Usage-Monitoring-Level. -/
def Grant.umi (grant : Grant) (key : String) : Avp :=
  .group .usageMonitoringInformation
    [.leaf .monitoringKey (.os key), .group .grantedServiceUnit grant.octets]

theorem Grant.umi_eq (grant : Grant) (key : String) :
    grant.umi key = umiOf false key grant.info := by
  cases hnull : grant.totalOctets.null with
  | true =>
    simp [Grant.umi, umiOf, Grant.info, SDBMonitoringInfo.granted, Grant.octets,
      OtlValue.toOption, OtlValue.isNull, hnull]
  | false =>
    simp [Grant.umi, umiOf, Grant.info, SDBMonitoringInfo.granted, Grant.octets, avpOf,
      OtlValue.toOption, OtlValue.isNull, hnull]

/-- The trigger for reports of usage, in either notation. -/
theorem updateQuota_of_usageReport {msg : SMsgDataForDB} (isProceraUsed : Bool)
    (hreport : 26 ∈ msg.soReqInfo.vectEventTrigger ∨ 33 ∈ msg.soReqInfo.vectEventTrigger) :
    (pcrfServerDetermineActionSet isProceraUsed msg).updateQuota = true := by
  have hstep (set : ActionSet) (trigger : Int32) :
      (set.onTrigger msg.soSessInfo.uiPeerDialect isProceraUsed trigger).updateQuota = true ↔
        set.updateQuota = true ∨ trigger = 26 ∨ trigger = 33 := by
    by_cases husage : trigger = 26 ∨ trigger = 33
    · rcases husage with rfl | rfl <;> simp [ActionSet.onTrigger]
    · -- no other trigger touches the bit
      simp only [ActionSet.onTrigger, husage, if_false, or_false]
      repeat' split
      all_goals rfl
  have hset : (msg.soReqInfo.vectEventTrigger.foldl
      (ActionSet.onTrigger msg.soSessInfo.uiPeerDialect isProceraUsed) {}).updateQuota = true := by
    refine (foldl_onTrigger_iff hstep _ _).mpr (.inr ?_)
    rcases hreport with hreport | hreport
    · exact ⟨26, hreport, .inl rfl⟩
    · exact ⟨33, hreport, .inr rfl⟩
  simp [pcrfServerDetermineActionSet, hset]

/-- In the answer to a usage report each key has one Usage-Monitoring-Information with what was
granted for it, if anything was. -/
theorem grantedKey_answered {env : GatherEnv} {isProceraUsed : Bool} {uiRefreshDefRuleIn : Nat}
    {msg : SMsgDataForDB} {schedule : List Turn} {queue : LocalRefreshQueue}
    {s : Answering AnswerState} {outcome : CcrOutcome}
    (hrun : appPcrfCcrCb env isProceraUsed uiRefreshDefRuleIn msg schedule queue s = some outcome)
    (hzero : outcome.iRetVal = 0) (htype : msg.soReqInfo.iCCRequestType = .updateRequest)
    (hreport : 26 ∈ msg.soReqInfo.vectEventTrigger ∨ 33 ∈ msg.soReqInfo.vectEventTrigger)
    (hempty : msg.soSessInfo.mapMonitInfo = []) {db : DbConnection}
    (hdb : env.pcoDBConn = some db)
    (hquota : (db.sessionUsage msg.soSessInfo.strSubscriberId 0).SucceedsFor
      msg.soReqInfo.vectUsageInfo)
    (hkeys : msg.soReqInfo.vectUsageInfo.Pairwise fun usage later =>
      usage.coMonitoringKey.v ≠ later.coMonitoringKey.v) (hs : s.AllSucceed)
    {i : Nat} {usage : SSessionUsageInfo} (hrecord : msg.soReqInfo.vectUsageInfo[i]? = some usage)
    (husage : usage.hasUsage = true) {grant : Grant} {updateRule : Int}
    (hanswer : (db.sessionUsage msg.soSessInfo.strSubscriberId 0).processQuota i usage =
      .ok (grant, updateRule)) (hgranted : grant.isGranted = true) :
    umisFor usage.coMonitoringKey.v outcome.answering.state.answer =
      [grant.umi usage.coMonitoringKey.v] := by
  have hstored : (msg.stored s).AllSucceed := hs
  replace hrun : msg.respond env isProceraUsed uiRefreshDefRuleIn schedule queue (msg.stored s) =
    some outcome := hrun
  generalize msg.stored s = after at hrun hstored
  obtain ⟨hreturned, hgathered, -, hanswering⟩ := respond_eq_some hrun
  rw [hzero] at hreturned
  rw [returned_zero hreturned] at hgathered
  -- the key is in the worker's map, and so in the handler's
  have hcollected := collected_find (msg.gatherCall
    (pcrfServerDetermineActionSet isProceraUsed msg) env after.state.store.mapSessRuleLst) hdb htype
    (updateQuota_of_usageReport isProceraUsed hreport) hquota
    (findSome?_kept hkeys hrecord husage hanswer) rfl
  have hcopied := copyFrom_keepsReported (g := (msg.gatherCall
    (pcrfServerDetermineActionSet isProceraUsed msg) env
      after.state.store.mapSessRuleLst).gathered) hempty (msg.gatherCall
    (pcrfServerDetermineActionSet isProceraUsed msg) env after.state.store.mapSessRuleLst).collected
  rw [← hgathered] at hcopied
  rw [hanswering, umisFor_answer htype _ hstored, Grant.umi_eq]
  exact hcopied.sorted.umisFor_umis false (hcopied.reported _ _ hcollected rfl) hgranted

/-- What is left of a quota, for both directions together. -/
def leftGrant : Grant := ⟨.empty, .empty, .of 700⟩

/-- A database that has a quota for every key, and new rules when usage is reported. -/
def quotaDb : DbConnection where
  sessionUsage _ _ := { processQuota := fun _ _ => .ok (leftGrant, 1) }
  subRules _ _ := .answered "a\t\n" none
  monitKey _ _ := { processQuota := fun _ => .ok ⟨.of 5, .of 5, .empty⟩ }

/-- The rule of the subscriber has the key that is reported, and another one. -/
def quotaEnv : GatherEnv where
  uiMaxCCRHandlers := 1
  ruleCache := .ofRows [{ strRuleName := "a", vectMonitKey := ["gold", "iron"] }]
  pcoDBConn := some quotaDb

/-- A UGW reports usage. -/
def goldReport : SMsgDataForDB where
  soSessInfo := { uiPeerDialect := .gxHwUgw, strSessionId := "gx;1;1", strSubscriberId := "7" }
  soReqInfo :=
    { iCCRequestType := .updateRequest
      vectEventTrigger := [33]
      vectUsageInfo :=
        [{ coMonitoringKey := .of "silver", coCCTotalOctets := .of 0 },
         { coMonitoringKey := .of "gold", coCCInputOctets := .of 300 }] }

def goldReportOutcome : Option CcrOutcome :=
  appPcrfCcrCb quotaEnv false 0 goldReport inTimeSchedule Multimap.empty (sessionWith [])

theorem grantedKey_answered_gold :
    ∃ outcome, goldReportOutcome = some outcome ∧
      umisFor "gold" outcome.answering.state.answer = [leftGrant.umi "gold"] := by
  have hrun := (Option.some_get (show goldReportOutcome.isSome = true by decide)).symm
  exact ⟨_, hrun, grantedKey_answered hrun (by decide) rfl (.inr (by decide)) rfl rfl
    ⟨rfl, fun _ _ _ _ => ⟨_, rfl⟩, rfl, rfl⟩ (by decide) rfl (i := 1) rfl (by decide) rfl
    (by decide)⟩

end Pcrf
