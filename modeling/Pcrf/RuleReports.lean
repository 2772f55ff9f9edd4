import Mathlib.Data.List.Induction
import Pcrf.RequestExtraction
import Pcrf.RuleReconcile

/-!
The rules that a CCR-U reports as failed, and the rules that are taken from the session rule cache
for it. Several names in one report become a single one.
-/

namespace Pcrf

open Lib

/-! ### Reports -/

namespace CcrAvp

/-- A Charging-Rule-Report. -/
def IsReport (avp : CcrAvp) : Prop := avp.key = RequestAvp.chargingRuleReport.key

instance : DecidablePred IsReport := fun avp =>
  inferInstanceAs (Decidable (avp.key = RequestAvp.chargingRuleReport.key))

/-- The values of the Charging-Rule-Name AVPs. -/
def ruleNames (avp : CcrAvp) : List String :=
  (avp.children.filter fun child => child.header = (10415, 1005)).map fun child =>
    child.value.text

/-- No name is empty, and there is a Rule-Failure-Code. -/
structure ReportsFailure (avp : CcrAvp) : Prop where
  named : ∀ name ∈ avp.ruleNames, name ≠ ""
  code : ∃ child ∈ avp.children, child.header = (10415, 1031)

instance (avp : CcrAvp) : Decidable avp.ReportsFailure :=
  decidable_of_iff ((∀ name ∈ avp.ruleNames, name ≠ "") ∧
      ∃ child ∈ avp.children, child.header = (10415, 1031))
    ⟨fun h => ⟨h.1, h.2⟩, fun h => ⟨h.named, h.code⟩⟩

/-- What stands in `m_coChargingRuleName`: the last name comes first. -/
def joinedName (avp : CcrAvp) : String := String.join avp.ruleNames.reverse

end CcrAvp

/-- The rules that the reports of a request name. -/
def reportedNames (avps : List CcrAvp) : List String :=
  (avps.filter (·.IsReport)).flatMap CcrAvp.ruleNames

/-- The texts that are made of the names, one for each report that has any. -/
def joinedNames (avps : List CcrAvp) : List String :=
  ((avps.filter (·.IsReport)).filter fun avp => avp.ruleNames ≠ []).map CcrAvp.joinedName

/-- The rules that are reported are taken from the session, and no others from any session. -/
structure ReportedRulesClosed (before after : RuleStore) (sessionId : String)
    (reported : List String) : Prop where
  session : after.rulesOf sessionId = (before.rulesOf sessionId).filter (· ∉ reported)
  others : ∀ s, s ≠ sessionId → after.rulesOf s = before.rulesOf s

/-! ### Reading the reports -/

section Read

variable {dict : Dictionary} {avp : CcrAvp}

/-- What one report leaves: its names in one text, and whether there are names and a code. -/
theorem readChargingRuleReport_eq :
    (readChargingRuleReport dict avp).coChargingRuleName =
        ⟨avp.joinedName, avp.ruleNames.isEmpty⟩ ∧
      ((readChargingRuleReport dict avp).coRuleFailureCode.isNull = true ↔
        ∀ child ∈ avp.children, child.header ≠ (10415, 1031)) := by
  obtain ⟨isVendor, vendor, code, value, children⟩ := avp
  unfold readChargingRuleReport
  simp only
  -- the loop from the last child on
  induction children using List.reverseRecOn with
  | nil => exact ⟨rfl, by simp [OtlValue.empty, OtlValue.isNull]⟩
  | append_singleton children child ih =>
    obtain ⟨hname, hcode⟩ := ih
    simp only [CcrAvp.joinedName, CcrAvp.ruleNames] at hname ⊢
    rw [List.foldl_append, List.foldl_cons, List.foldl_nil]
    generalize List.foldl _ _ children = soPolicy at hname hcode ⊢
    simp only [List.filter_append, List.filter_cons, List.filter_nil, List.map_append,
      List.reverse_append, List.forall_mem_append, List.forall_mem_singleton]
    by_cases h1 : child.header = (10415, 1005)
    · have h2 : (10415, 1005) ≠ ((10415, 1031) : UInt32 × UInt32) := by decide
      simp [h1, h2, hname, hcode, OtlValue.prepend, OtlValue.of, String.join_cons]
    · rw [if_neg h1]
      by_cases h2 : child.header = (10415, 1019)
      · have h3 : (10415, 1019) ≠ ((10415, 1031) : UInt32 × UInt32) := by decide
        have h4 : (10415, 1019) ≠ ((10415, 1005) : UInt32 × UInt32) := by decide
        simp [h2, h3, h4, hname, hcode]
      · rw [if_neg h2]
        by_cases h3 : child.header = (10415, 1031)
        · have h4 : (10415, 1031) ≠ ((10415, 1005) : UInt32 × UInt32) := by decide
          simp [h3, h4, hname, OtlValue.of, OtlValue.isNull]
        · simp [h1, h3, hname, hcode]

/-- The elements of `m_vectCRR` that an AVP of the request adds. -/
def keptReports (dict : Dictionary) (avp : CcrAvp) : List SSessionPolicyInfo :=
  if avp.IsReport then
    let soPolicy := readChargingRuleReport dict avp
    soPolicy.push [] soPolicy.toSSessionPolicyInfo
  else []

theorem ReportedPolicy.push_eq {α : Type} (soPolicy : ReportedPolicy) (vect : List α) (x : α) :
    soPolicy.push vect x = vect ++ soPolicy.push [] x := by
  unfold ReportedPolicy.push
  split
  · rfl
  · exact (List.append_nil vect).symm

variable {env : ExtractEnv} {data data' : ExtractedData}

/-- No other AVP is taken for a report. -/
theorem keptReports_of_ne {name : AvpName} (hkey : name.key = avp.key)
    (hne : name ≠ .request .chargingRuleReport) : keptReports dict avp = [] := by
  refine if_neg fun hreport => hne ?_
  have same : name.key = (AvpName.request .chargingRuleReport).key := hkey.trans hreport
  exact AvpName.key_inj same

theorem extractAvp_vectCRR (h : extractAvp env avp data = some data') :
    data'.req.vectCRR = data.req.vectCRR ++ keptReports env.dict avp := by
  cases hname : AvpName.ofKey avp.key with
  | none =>
    have other : ¬ avp.IsReport := fun hreport => by
      have known := AvpName.ofKey_key (.request .chargingRuleReport)
      rw [← show avp.key = (AvpName.request .chargingRuleReport).key from hreport, hname] at known
      cases known
    rw [extractAvp_of_unknown hname, Option.some_inj] at h
    rw [← h, keptReports, if_neg other, List.append_nil]
  | some name =>
    have hkey := AvpName.key_of_ofKey hname
    cases name with
    | session name =>
      rw [extractAvp_session data hkey.symm, Option.some_inj] at h
      rw [keptReports_of_ne hkey (by simp), List.append_nil, ← h]
    | environment name =>
      rw [extractAvp_environment data hkey.symm] at h
      obtain ⟨e, -, rfl⟩ := Option.map_eq_some_iff.mp h
      rw [keptReports_of_ne hkey (by simp), List.append_nil]
      rfl
    | request name =>
      rw [extractAvp_request data hkey.symm, Option.some_inj] at h
      rw [← h]
      by_cases hreport : name = .chargingRuleReport
      · subst hreport
        have isReport : avp.IsReport := hkey.symm
        rw [keptReports, if_pos isReport]
        exact ReportedPolicy.push_eq ..
      · rw [keptReports_of_ne hkey (by simpa using hreport), List.append_nil]
        cases name with
        | chargingRuleReport => exact absurd rfl hreport
        | _ => rfl

theorem extracted_vectCRR {avps : List CcrAvp} (h : pcrfExtractReqData env avps = some data) :
    data.req.vectCRR = avps.flatMap (keptReports env.dict) := by
  have loop (avps : List CcrAvp) (start : ExtractedData)
      (h : avps.foldlM (fun data avp => extractAvp env avp data) start = some data) :
      data.req.vectCRR = start.req.vectCRR ++ avps.flatMap (keptReports env.dict) := by
    induction avps generalizing start with
    | nil =>
      obtain rfl := Option.some.inj h
      exact (List.append_nil _).symm
    | cons avp avps ih =>
      rw [List.foldlM_cons] at h
      obtain ⟨next, hnext, hrest⟩ := Option.bind_eq_some_iff.mp h
      rw [ih next hrest, extractAvp_vectCRR hnext, List.flatMap_cons, List.append_assoc]
  exact loop avps {} h

/-- Of every report with a name the joined text is kept. -/
theorem names_keptReports {avps : List CcrAvp}
    (hreports : ∀ avp ∈ avps, avp.IsReport → avp.ReportsFailure) :
    (avps.flatMap (keptReports dict)).map (·.coChargingRuleName.v) = joinedNames avps := by
  induction avps with
  | nil => rfl
  | cons avp avps ih =>
    have rest := ih fun avp' hmem => hreports avp' (List.mem_cons_of_mem _ hmem)
    rw [List.flatMap_cons, List.map_append, rest]
    simp only [joinedNames, List.filter_cons]
    by_cases hreport : avp.IsReport
    · have failure := hreports avp (List.mem_cons_self ..) hreport
      obtain ⟨hname, hcode⟩ := @readChargingRuleReport_eq dict avp
      have coded : (readChargingRuleReport dict avp).coRuleFailureCode.isNull = false := by
        obtain ⟨child, hmem, hheader⟩ := failure.code
        rw [Bool.eq_false_iff]
        exact fun hnull => hcode.mp hnull child hmem hheader
      have unnamed : (readChargingRuleReport dict avp).coChargingRuleName.isNull =
          avp.ruleNames.isEmpty := by
        rw [hname]
        rfl
      rw [keptReports, if_pos hreport]
      simp only [ReportedPolicy.push, coded, unnamed, hreport, decide_true, if_true]
      by_cases hempty : avp.ruleNames = []
      · simp [hempty]
      · simp [hempty, hname]
    · simp [keptReports, hreport]

end Read

section Closed

variable {env : ExtractEnv} {avps : List CcrAvp} {data : ExtractedData}

theorem joinedNames_ne_empty (hreports : ∀ avp ∈ avps, avp.IsReport → avp.ReportsFailure)
    {name : String} (h : name ∈ joinedNames avps) : name ≠ "" := by
  simp only [joinedNames, List.mem_map, List.mem_filter, decide_eq_true_eq] at h
  obtain ⟨avp, ⟨⟨hmem, hreport⟩, hne⟩, rfl⟩ := h
  obtain ⟨first, rest, hnames⟩ := List.exists_cons_of_ne_nil hne
  have named := (hreports avp hmem hreport).named first (by simp [hnames])
  intro hempty
  have chars := congrArg String.toList hempty
  simp [CcrAvp.joinedName, hnames, String.join, List.foldl_append, String.toList_append]
    at chars
  exact named chars.2

/-- The rules that are reported are closed exactly if each rule of the session is named in a report
whenever the joined names of some report are its name, and only then. -/
theorem reportedRulesClosed_iff (extracted : pcrfExtractReqData env avps = some data)
    (update : data.req.iCCRequestType = .updateRequest)
    (hreports : ∀ avp ∈ avps, avp.IsReport → avp.ReportsFailure) (st : RuleStore) :
    ReportedRulesClosed st
        (pcrfServerPolicyDbStore st data.sess.toSSessionInfo data.req.toSRequestInfo)
        data.sess.strSessionId (reportedNames avps) ↔
      ∀ name ∈ st.rulesOf data.sess.strSessionId,
        name ∈ reportedNames avps ↔ data.sess.strSessionId ≠ "" ∧ name ∈ joinedNames avps := by
  have names : (data.req.vectCRR.map (·.coChargingRuleName.v)) = joinedNames avps := by
    rw [extracted_vectCRR extracted, names_keptReports hreports]
  have after (s : String) :
      (pcrfServerPolicyDbStore st data.sess.toSSessionInfo data.req.toSRequestInfo).rulesOf s =
        (closeAll data.sess.toSSessionInfo (joinedNames avps) st).rulesOf s := by
    simp only [pcrfServerPolicyDbStore, update]
    rw [rulesOf_closeReported, names]
  have positive (text : String) : 0 < text.length ↔ text ≠ "" := by
    rw [Nat.pos_iff_ne_zero, Ne, String.length_eq_zero_iff]
  have closed (name : String) :
      (name ∈ joinedNames avps ∧ 0 < data.sess.strSessionId.length ∧ 0 < name.length) ↔
        data.sess.strSessionId ≠ "" ∧ name ∈ joinedNames avps := by
    rw [positive, positive]
    constructor
    · exact fun h => ⟨h.2.1, h.1⟩
    · exact fun h => ⟨h.2, h.1, joinedNames_ne_empty hreports h.2⟩
  constructor
  · rintro ⟨session, -⟩ name hmem
    rw [after, rulesOf_closeAll_guarded, if_pos rfl] at session
    have kept := congrArg (name ∈ ·) session
    simp only [List.mem_filter, hmem, true_and, decide_eq_true_eq, closed] at kept
    exact not_iff_not.mp (iff_of_eq kept).symm
  · intro agree
    constructor
    · rw [after, rulesOf_closeAll_guarded, if_pos rfl]
      refine List.filter_congr fun name hmem => ?_
      simp only [closed, ← agree name hmem]
    · intro s hs
      rw [after, rulesOf_closeAll_guarded, if_neg hs]

/-- A report of one name is read as it is. -/
theorem mem_joinedNames_of_single
    (single : ∀ avp ∈ avps, avp.IsReport → avp.ruleNames.length ≤ 1) (name : String) :
    name ∈ joinedNames avps ↔ name ∈ reportedNames avps := by
  have one (avp : CcrAvp) (h : avp.ruleNames.length ≤ 1) :
      (avp.ruleNames ≠ [] ∧ avp.joinedName = name) ↔ name ∈ avp.ruleNames := by
    rcases Nat.le_one_iff_eq_zero_or_eq_one.mp h with hzero | hone
    · simp [List.length_eq_zero_iff.mp hzero]
    · obtain ⟨only, honly⟩ := List.length_eq_one_iff.mp hone
      simp [CcrAvp.joinedName, honly, String.join, eq_comm]
  simp only [joinedNames, reportedNames, List.mem_map, List.mem_flatMap, List.mem_filter,
    decide_eq_true_eq]
  constructor
  · rintro ⟨avp, ⟨⟨hmem, hreport⟩, hne⟩, hname⟩
    exact ⟨avp, ⟨hmem, hreport⟩, (one avp (single avp hmem hreport)).mp ⟨hne, hname⟩⟩
  · rintro ⟨avp, ⟨hmem, hreport⟩, hname⟩
    obtain ⟨hne, hjoined⟩ := (one avp (single avp hmem hreport)).mpr hname
    exact ⟨avp, ⟨⟨hmem, hreport⟩, hne⟩, hjoined⟩

end Closed

/-! ### Two requests -/

/-- A Charging-Rule-Report of the names, with the code `UNKNOWN_RULE_NAME`. -/
def ruleReportAvp (names : List (List UInt8)) : CcrAvp where
  isVendor := true
  vendor := 10415
  code := 1018
  children :=
    (names.map fun octets => { vendor := 10415, code := 1005, value := { os := octets } }) ++
      [{ vendor := 10415, code := 1031, value := { number := 1 } }]

/-- A CCR-U of the session `s`. -/
def updateAvps (reports : List (List (List UInt8))) : List CcrAvp :=
  [{ code := 263, value := { os := [115] } }, { code := 416, value := { number := 2 } }] ++
    reports.map ruleReportAvp

theorem updateAvps_extracted (reports : List (List (List UInt8)))
    (h : (pcrfExtractReqData ratTypeEnv (updateAvps reports)).map (fun data =>
      (data.req.iCCRequestType, data.sess.strSessionId)) = some (.updateRequest, "s")) :
    ∃ data, pcrfExtractReqData ratTypeEnv (updateAvps reports) = some data ∧
      data.req.iCCRequestType = .updateRequest ∧ data.sess.strSessionId = "s" := by
  obtain ⟨data, hdata, heq⟩ := Option.map_eq_some_iff.mp h
  obtain ⟨hupdate, hsess⟩ := Prod.mk.inj heq
  exact ⟨data, hdata, hupdate, hsess⟩

/-- The session has the rules `a` and `b`. -/
def reportedStore : RuleStore where
  mapSessRuleLst := Index.push (Index.push Store.empty "s" "a") "s" "b"

theorem reportedRulesClosed_single :
    ∃ data, pcrfExtractReqData ratTypeEnv (updateAvps [[[97]]]) = some data ∧
      ReportedRulesClosed reportedStore
        (pcrfServerPolicyDbStore reportedStore data.sess.toSSessionInfo data.req.toSRequestInfo)
        data.sess.strSessionId (reportedNames (updateAvps [[[97]]])) := by
  obtain ⟨data, hdata, hupdate, hsess⟩ := updateAvps_extracted [[[97]]] (by decide)
  refine ⟨data, hdata, (reportedRulesClosed_iff hdata hupdate (by decide) _).mpr ?_⟩
  intro name _
  rw [hsess, mem_joinedNames_of_single (by decide)]
  exact (and_iff_right (by decide)).symm

/-- One report names both rules: the rule that is looked for is `ba`. -/
theorem not_reportedRulesClosed_twoNames :
    ¬ ∀ env avps data, pcrfExtractReqData env avps = some data →
      data.req.iCCRequestType = .updateRequest →
      (∀ avp ∈ avps, avp.IsReport → avp.ReportsFailure) → ∀ st,
      ReportedRulesClosed st
        (pcrfServerPolicyDbStore st data.sess.toSSessionInfo data.req.toSRequestInfo)
        data.sess.strSessionId (reportedNames avps) := by
  intro closed
  obtain ⟨data, hdata, hupdate, hsess⟩ :=
    updateAvps_extracted [[[97], [98]]] (by decide)
  have session := (closed ratTypeEnv _ data hdata hupdate (by decide) reportedStore).session
  have names : data.req.vectCRR.map (·.coChargingRuleName.v) = ["ba"] := by
    rw [extracted_vectCRR hdata]
    decide
  have kept : (pcrfServerPolicyDbStore reportedStore data.sess.toSSessionInfo
      data.req.toSRequestInfo).rulesOf "s" = ["a", "b"] := by
    simp only [pcrfServerPolicyDbStore, hupdate]
    rw [rulesOf_closeReported, names, rulesOf_closeAll_guarded, if_pos hsess.symm]
    rw [hsess]
    decide
  rw [hsess, kept] at session
  exact absurd session (by decide)

end Pcrf
