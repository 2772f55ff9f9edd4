import Mathlib.Data.List.Induction
import Mathlib.Data.List.Nodup
import Mathlib.Data.List.TakeWhile
import Pcrf.DefaultRules

/-!
How the `defaultRule` statements of the configuration become the map of default rules
(`app_pcrf_conf.y`), and when `pcrf_drs_get_defaultRuleList` answers the rules that were
configured for a session.
-/

namespace Pcrf

/-! ### The statements and the parser's actions -/

/-- A quoted string of the configuration. The scanner hands it on as a string of C, so it ends
where the first null would be. -/
structure QString where
  text : String
  ended : Char.ofNat 0 ∉ text.toList

/-- The parameters that a `defaultRule` statement can have conditions on. -/
inductive SelectorParam where
  | ratType
  | ipCanType
  | sgsnAddress
  | peerDialect
  deriving Repr, DecidableEq

def SelectorParam.paramName : SelectorParam → String
  | ratType => "RAT_TYPE"
  | ipCanType => "IP_CAN_TYPE"
  | sgsnAddress => "SGSN_ADDRESS"
  | peerDialect => "PEER_DIALECT"

/-- `defaultRule = "name" { PARAM = "value"; … };` -/
structure DefaultRuleStatement where
  strRuleName : QString
  defaultRuleInfo : List (SelectorParam × QString) := []

def pcrfDrsCreate : List (String × String) := []

def pcrfDrsAddSelector (soSelectorData : List (String × String)) (parameter value : String) :
    List (String × String) :=
  soSelectorData ++ [(parameter, value)]

/-- A new name is inserted with its conditions; a name that is there gets them in addition. -/
def pcrfDrsAddDefaultRule (mapDefaultRule : List SDefaultRule)
    (soSelectorData : List (String × String)) (ruleName : String) : List SDefaultRule :=
  if ruleName ∈ mapDefaultRule.map SDefaultRule.strRuleName then
    mapDefaultRule.map fun rule =>
      if rule.strRuleName = ruleName then
        { rule with mmapCondition := rule.mmapCondition ++ soSelectorData }
      else rule
  else mapDefaultRule ++ [⟨ruleName, soSelectorData⟩]

/-- The globals that the actions of the parser work on. -/
structure SelectorParser where
  psoRuleSelector : Option (List (String × String)) := none
  mapDefaultRule : List SDefaultRule := []
  deriving Repr, DecidableEq

namespace SelectorParser

/-- The action of one condition: the selector is created by the first one. -/
def defaultRuleInfoParam (parser : SelectorParser) (condition : SelectorParam × QString) :
    SelectorParser :=
  let selector := parser.psoRuleSelector.getD pcrfDrsCreate
  { parser with
    psoRuleSelector :=
      some (pcrfDrsAddSelector selector condition.1.paramName condition.2.text) }

/-- The action of a whole statement. -/
def defaultRule (parser : SelectorParser) (statement : DefaultRuleStatement) : SelectorParser :=
  let parser := statement.defaultRuleInfo.foldl defaultRuleInfoParam parser
  match parser.psoRuleSelector with
  | none => parser
  | some selector =>
    { psoRuleSelector := none
      mapDefaultRule :=
        pcrfDrsAddDefaultRule parser.mapDefaultRule selector statement.strRuleName.text }

/-- The state after all statements of a configuration. -/
def parse (statements : List DefaultRuleStatement) : SelectorParser :=
  statements.foldl defaultRule {}

end SelectorParser

/-! ### What the statements configure -/

/-- The conditions of a statement, as pairs of strings. -/
def DefaultRuleStatement.conditions (statement : DefaultRuleStatement) :
    List (String × String) :=
  statement.defaultRuleInfo.map fun condition => (condition.1.paramName, condition.2.text)

/-- All conditions that the statements give under one name. -/
def mergedConditions (statements : List DefaultRuleStatement) (ruleName : String) :
    List (String × String) :=
  (statements.filter fun statement => statement.strRuleName.text = ruleName).flatMap
    DefaultRuleStatement.conditions

/-- No condition mentions the parameter, or one of them has the value. -/
def FitsCondition (conditions : List (String × String)) (param value : String) : Prop :=
  (∀ condition ∈ conditions, condition.1 ≠ param) ∨ (param, value) ∈ conditions

/-- The values of a session that can be unknown, with the parameters they are compared as. -/
def sessionParams (soUserEnvironment : SUserEnvironment) : List (String × OtlValue String) :=
  [("RAT_TYPE", soUserEnvironment.coRATType), ("SGSN_ADDRESS", soUserEnvironment.coSGSNAddress),
    ("IP_CAN_TYPE", soUserEnvironment.coIPCANType)]

/-- What is configured for a session: every known value fits, and the dialect, which is always
known. -/
structure ShouldSelect (statements : List DefaultRuleStatement)
    (soUserEnvironment : SUserEnvironment) (uiPeerDialect : PeerDialect) (ruleName : String) :
    Prop where
  configured : ∃ statement ∈ statements, statement.strRuleName.text = ruleName
  known : ∀ param ∈ sessionParams soUserEnvironment, ∀ value, param.2.toOption = some value →
    FitsCondition (mergedConditions statements ruleName) param.1 value
  dialect : FitsCondition (mergedConditions statements ruleName) "PEER_DIALECT"
    uiPeerDialect.dialectName

/-- The rules answered are the configured ones, each of them once. -/
def SelectsConfigured (statements : List DefaultRuleStatement)
    (soUserEnvironment : SUserEnvironment) (uiPeerDialect : PeerDialect) : Prop :=
  let names := pcrfDrsGetDefaultRuleList (SelectorParser.parse statements).mapDefaultRule
    soUserEnvironment uiPeerDialect
  names.Nodup ∧
    ∀ ruleName, ruleName ∈ names ↔
      ShouldSelect statements soUserEnvironment uiPeerDialect ruleName

/-- The known values fit as the functions of C read them. -/
def FitsAsRead (conditions : List (String × String)) (soUserEnvironment : SUserEnvironment) :
    Prop :=
  ∀ param ∈ sessionParams soUserEnvironment, param.2.isNull = false →
    FitsCondition conditions param.1 (cStr param.2.v)

/-- The conditions under which the code selects what is configured. Every name has a condition.
Where the IP-CAN-Type is not known, the dialect is not compared, so that it must fit. A null
inside a value that is compared would make it fit when it should not. -/
structure SelectorUsable (statements : List DefaultRuleStatement)
    (soUserEnvironment : SUserEnvironment) (uiPeerDialect : PeerDialect) : Prop where
  hasCondition : ∀ statement ∈ statements,
    mergedConditions statements statement.strRuleName.text ≠ []
  dialectFits : soUserEnvironment.coIPCANType.isNull = true → ∀ statement ∈ statements,
    FitsAsRead (mergedConditions statements statement.strRuleName.text) soUserEnvironment →
      FitsCondition (mergedConditions statements statement.strRuleName.text) "PEER_DIALECT"
        uiPeerDialect.dialectName
  noNull : ∀ statement ∈ statements,
    FitsAsRead (mergedConditions statements statement.strRuleName.text) soUserEnvironment →
    FitsCondition (mergedConditions statements statement.strRuleName.text) "PEER_DIALECT"
      uiPeerDialect.dialectName →
    ∀ param ∈ sessionParams soUserEnvironment, param.2.isNull = false →
      (∃ condition ∈ mergedConditions statements statement.strRuleName.text,
        condition.1 = param.1) →
      Char.ofNat 0 ∉ param.2.v.toList

/-! ### What the parser leaves -/

@[simp] theorem mergedConditions_snoc (statements : List DefaultRuleStatement)
    (statement : DefaultRuleStatement) (ruleName : String) :
    mergedConditions (statements ++ [statement]) ruleName =
      mergedConditions statements ruleName ++
        if statement.strRuleName.text = ruleName then statement.conditions else [] := by
  unfold mergedConditions
  rw [List.filter_append, List.flatMap_append]
  split
  next h => simp [h]
  next h => simp [h]

theorem foldl_defaultRuleInfoParam (parser : SelectorParser)
    (info : List (SelectorParam × QString)) (selector : List (String × String))
    (h : parser.psoRuleSelector = some selector) :
    info.foldl SelectorParser.defaultRuleInfoParam parser =
      { parser with
        psoRuleSelector := some (selector ++ info.map fun condition =>
          (condition.1.paramName, condition.2.text)) } := by
  induction info generalizing parser selector with
  | nil =>
    obtain ⟨_, _⟩ := parser
    subst h
    simp
  | cons condition rest ih =>
    -- the selector is there, so the condition is appended to it
    have hStep : (parser.defaultRuleInfoParam condition).psoRuleSelector =
        some (selector ++ [(condition.1.paramName, condition.2.text)]) := by
      simp [SelectorParser.defaultRuleInfoParam, h, pcrfDrsAddSelector]
    rw [List.foldl_cons, ih _ _ hStep]
    simp [SelectorParser.defaultRuleInfoParam]

/-- A statement without conditions does nothing; one with conditions adds them. -/
theorem defaultRule_of_none (parser : SelectorParser) (statement : DefaultRuleStatement)
    (h : parser.psoRuleSelector = none) :
    parser.defaultRule statement =
      if statement.conditions = [] then parser
      else { parser with
        mapDefaultRule := pcrfDrsAddDefaultRule parser.mapDefaultRule statement.conditions
          statement.strRuleName.text } := by
  obtain ⟨_, map⟩ := parser
  subst h
  unfold SelectorParser.defaultRule DefaultRuleStatement.conditions
  cases statement.defaultRuleInfo with
  | nil => simp
  | cons condition rest =>
    -- the first condition creates the selector, the others find it there
    have hFirst : (SelectorParser.defaultRuleInfoParam ⟨none, map⟩ condition).psoRuleSelector =
        some [(condition.1.paramName, condition.2.text)] := rfl
    rw [List.foldl_cons, foldl_defaultRuleInfoParam _ _ _ hFirst]
    simp [SelectorParser.defaultRuleInfoParam]

/-- What the map of default rules is after some statements. -/
structure ParsedAs (statements : List DefaultRuleStatement) (parser : SelectorParser) : Prop where
  closed : parser.psoRuleSelector = none
  once : (parser.mapDefaultRule.map SDefaultRule.strRuleName).Nodup
  names : ∀ ruleName, ruleName ∈ parser.mapDefaultRule.map SDefaultRule.strRuleName ↔
    mergedConditions statements ruleName ≠ []
  conditions : ∀ rule ∈ parser.mapDefaultRule,
    rule.mmapCondition = mergedConditions statements rule.strRuleName

theorem map_strRuleName_extend (map : List SDefaultRule) (added : List (String × String))
    (ruleName : String) :
    (map.map fun rule =>
      if rule.strRuleName = ruleName then
        { rule with mmapCondition := rule.mmapCondition ++ added }
      else rule).map SDefaultRule.strRuleName = map.map SDefaultRule.strRuleName := by
  rw [List.map_map]
  apply List.map_congr_left
  intro rule _
  simp only [Function.comp_apply]
  split <;> rfl

/-- A statement without conditions leaves everything as it is. -/
theorem ParsedAs.unchanged {statements : List DefaultRuleStatement} {parser : SelectorParser}
    (hParsed : ParsedAs statements parser) {statement : DefaultRuleStatement}
    (hNone : statement.conditions = []) : ParsedAs (statements ++ [statement]) parser := by
  have hSame : ∀ ruleName, mergedConditions (statements ++ [statement]) ruleName =
      mergedConditions statements ruleName := by
    intro ruleName
    simp [hNone]
  constructor
  · exact hParsed.closed
  · exact hParsed.once
  · intro ruleName
    rw [hSame]
    exact hParsed.names ruleName
  · intro rule hRule
    rw [hSame]
    exact hParsed.conditions rule hRule

/-- The conditions of a name that is there are merged with the new ones. -/
theorem ParsedAs.merge {statements : List DefaultRuleStatement} {parser : SelectorParser}
    (hParsed : ParsedAs statements parser) {statement : DefaultRuleStatement}
    (hThere : mergedConditions statements statement.strRuleName.text ≠ []) :
    ParsedAs (statements ++ [statement])
      { parser with
        mapDefaultRule := parser.mapDefaultRule.map fun rule =>
          if rule.strRuleName = statement.strRuleName.text then
            { rule with mmapCondition := rule.mmapCondition ++ statement.conditions }
          else rule } := by
  constructor
  · exact hParsed.closed
  · simpa only [map_strRuleName_extend] using hParsed.once
  · intro name
    simp only [map_strRuleName_extend, hParsed.names, mergedConditions_snoc]
    -- the conditions of the name itself grow, those of the others stay
    split
    next hName =>
      subst hName
      simp [hThere]
    next => simp
  · intro rule hRule
    obtain ⟨old, hOld, rfl⟩ := List.mem_map.mp hRule
    have hCond := hParsed.conditions old hOld
    split
    next hName => simp [hName, hCond]
    next hName => simp [Ne.symm hName, hCond]

/-- A new name comes with the conditions of its statement. -/
theorem ParsedAs.insert {statements : List DefaultRuleStatement} {parser : SelectorParser}
    (hParsed : ParsedAs statements parser) {statement : DefaultRuleStatement}
    (hSome : statement.conditions ≠ [])
    (hNew : statement.strRuleName.text ∉ parser.mapDefaultRule.map SDefaultRule.strRuleName) :
    ParsedAs (statements ++ [statement])
      { parser with
        mapDefaultRule :=
          parser.mapDefaultRule ++ [⟨statement.strRuleName.text, statement.conditions⟩] } := by
  -- a name that is not in the map has had no conditions so far
  have hEmpty : mergedConditions statements statement.strRuleName.text = [] := by
    rw [hParsed.names] at hNew
    exact not_not.mp hNew
  constructor
  · exact hParsed.closed
  · rw [List.map_append, List.map_singleton, List.nodup_append]
    refine ⟨hParsed.once, List.nodup_singleton _, ?_⟩
    intro name hName last hLast hEq
    rw [List.mem_singleton] at hLast
    rw [hEq, hLast] at hName
    exact hNew hName
  · intro name
    simp only [List.map_append, List.map_cons, List.map_nil, List.mem_append,
      List.mem_singleton, hParsed.names, mergedConditions_snoc]
    by_cases hName : statement.strRuleName.text = name
    · simp [hName, hSome]
    · simp [hName, Ne.symm hName]
  · intro rule hRule
    rcases List.mem_append.mp hRule with hOld | hLast
    · have hCond := hParsed.conditions rule hOld
      have hName : statement.strRuleName.text ≠ rule.strRuleName := by
        intro hEq
        exact hNew (hEq ▸ List.mem_map_of_mem hOld)
      simp [hName, hCond]
    · rw [List.mem_singleton.mp hLast]
      simp [hEmpty]

theorem ParsedAs.snoc {statements : List DefaultRuleStatement} {parser : SelectorParser}
    (hParsed : ParsedAs statements parser) (statement : DefaultRuleStatement) :
    ParsedAs (statements ++ [statement]) (parser.defaultRule statement) := by
  rw [defaultRule_of_none parser statement hParsed.closed]
  by_cases hNone : statement.conditions = []
  · rw [if_pos hNone]
    exact hParsed.unchanged hNone
  · rw [if_neg hNone]
    unfold pcrfDrsAddDefaultRule
    split
    next hThere => exact hParsed.merge ((hParsed.names _).mp hThere)
    next hNew => exact hParsed.insert hNone hNew

theorem parsedAs_parse (statements : List DefaultRuleStatement) :
    ParsedAs statements (SelectorParser.parse statements) := by
  induction statements using List.reverseRecOn with
  | nil =>
    constructor
    · rfl
    · exact List.nodup_nil
    · intro ruleName
      simp [SelectorParser.parse, mergedConditions]
    · intro rule hRule
      simp [SelectorParser.parse] at hRule
  | append_singleton statements statement ih =>
    have hLast : SelectorParser.parse (statements ++ [statement]) =
        (SelectorParser.parse statements).defaultRule statement := by
      simp [SelectorParser.parse]
    -- the last statement is the last action of the parser
    rw [hLast]
    exact ih.snoc statement

/-! ### What is selected -/

theorem pcrfDrsCheckParameter_iff (conditions : List (String × String)) (param value : String) :
    pcrfDrsCheckParameter conditions param value = true ↔
      FitsCondition conditions param value := by
  unfold pcrfDrsCheckParameter FitsCondition
  simp only [Bool.or_eq_true, List.isEmpty_iff, List.filter_eq_nil_iff, beq_iff_eq,
    List.any_eq_true, List.mem_filter]
  constructor
  · rintro (hNone | ⟨⟨p, v⟩, ⟨hMem, hParam⟩, hValue⟩)
    · exact .inl hNone
    · simp only at hParam hValue
      exact .inr (hParam ▸ hValue ▸ hMem)
  · rintro (hNone | hMem)
    · exact .inl hNone
    · exact .inr ⟨(param, value), ⟨hMem, rfl⟩, rfl⟩

theorem fitsKnown_iff (rule : SDefaultRule) (known : OtlValue String) (param value : String) :
    fitsKnown rule known param value = true ↔
      (known.isNull = false → FitsCondition rule.mmapCondition param value) := by
  unfold fitsKnown
  rw [Bool.or_eq_true, pcrfDrsCheckParameter_iff]
  cases known.isNull <;> simp

/-- The rules answered are those with a condition whose conditions fit as they are read. -/
theorem mem_pcrfDrsGetDefaultRuleList (statements : List DefaultRuleStatement)
    (soUserEnvironment : SUserEnvironment) (uiPeerDialect : PeerDialect) (ruleName : String) :
    ruleName ∈ pcrfDrsGetDefaultRuleList (SelectorParser.parse statements).mapDefaultRule
        soUserEnvironment uiPeerDialect ↔
      mergedConditions statements ruleName ≠ [] ∧
      FitsAsRead (mergedConditions statements ruleName) soUserEnvironment ∧
      (soUserEnvironment.coIPCANType.isNull = false →
        FitsCondition (mergedConditions statements ruleName) "PEER_DIALECT"
          uiPeerDialect.dialectName) := by
  have hParsed := parsedAs_parse statements
  -- the dialect is looked at beside the IP-CAN-Type, under the same guard
  have hRule : ∀ rule ∈ (SelectorParser.parse statements).mapDefaultRule,
      ((fitsKnown rule soUserEnvironment.coRATType "RAT_TYPE"
            (cStr soUserEnvironment.coRATType.v) &&
          fitsKnown rule soUserEnvironment.coSGSNAddress "SGSN_ADDRESS"
            (cStr soUserEnvironment.coSGSNAddress.v) &&
          fitsKnown rule soUserEnvironment.coIPCANType "IP_CAN_TYPE"
            (cStr soUserEnvironment.coIPCANType.v) &&
          fitsKnown rule soUserEnvironment.coIPCANType "PEER_DIALECT"
            uiPeerDialect.dialectName) = true ↔
        FitsAsRead (mergedConditions statements rule.strRuleName) soUserEnvironment ∧
        (soUserEnvironment.coIPCANType.isNull = false →
          FitsCondition (mergedConditions statements rule.strRuleName) "PEER_DIALECT"
            uiPeerDialect.dialectName)) := by
    intro rule hMem
    rw [← hParsed.conditions rule hMem]
    simp only [Bool.and_eq_true, fitsKnown_iff, FitsAsRead, sessionParams, List.mem_cons,
      List.not_mem_nil, or_false, forall_eq_or_imp, forall_eq]
    tauto
  unfold pcrfDrsGetDefaultRuleList
  simp only [List.mem_map, List.mem_filter]
  constructor
  · rintro ⟨rule, ⟨hMem, hFits⟩, rfl⟩
    have hNonempty := (hParsed.names rule.strRuleName).mp (List.mem_map_of_mem hMem)
    exact ⟨hNonempty, (hRule rule hMem).mp hFits⟩
  · rintro ⟨hNonempty, hFits⟩
    obtain ⟨rule, hMem, rfl⟩ := List.mem_map.mp ((hParsed.names ruleName).mpr hNonempty)
    exact ⟨rule, ⟨hMem, (hRule rule hMem).mpr hFits⟩, rfl⟩

theorem pcrfDrsGetDefaultRuleList_nodup (statements : List DefaultRuleStatement)
    (soUserEnvironment : SUserEnvironment) (uiPeerDialect : PeerDialect) :
    (pcrfDrsGetDefaultRuleList (SelectorParser.parse statements).mapDefaultRule
      soUserEnvironment uiPeerDialect).Nodup := by
  have hOnce := (parsedAs_parse statements).once
  exact hOnce.sublist (List.filter_sublist.map _)

/-- A name whose conditions are there was configured. -/
theorem configured_of_mergedConditions {statements : List DefaultRuleStatement}
    {ruleName : String} (h : mergedConditions statements ruleName ≠ []) :
    ∃ statement ∈ statements, statement.strRuleName.text = ruleName := by
  unfold mergedConditions at h
  rw [Ne, List.flatMap_eq_nil_iff, not_forall] at h
  obtain ⟨statement, hStatement⟩ := h
  have hMem := (not_forall.mp hStatement).1
  rw [List.mem_filter, decide_eq_true_eq] at hMem
  exact ⟨statement, hMem⟩

theorem cStr_eq_self {s : String} (h : Char.ofNat 0 ∉ s.toList) : cStr s = s := by
  have hAll : s.toList.takeWhile (· ≠ Char.ofNat 0) = s.toList := by
    rw [List.takeWhile_eq_self_iff]
    intro c hc
    have hNe : c ≠ Char.ofNat 0 := fun hEq => h (hEq ▸ hc)
    simpa using hNe
  unfold cStr
  rw [hAll]
  exact String.ofList_toList

/-- Every value of a condition is a string of C. -/
theorem mergedConditions_ended {statements : List DefaultRuleStatement} {ruleName : String}
    {condition : String × String} (h : condition ∈ mergedConditions statements ruleName) :
    Char.ofNat 0 ∉ condition.2.toList := by
  unfold mergedConditions at h
  obtain ⟨statement, -, hMem⟩ := List.mem_flatMap.mp h
  obtain ⟨source, -, rfl⟩ := List.mem_map.mp hMem
  exact source.2.ended

/-- A value that fits as it is fits as it is read. -/
theorem FitsCondition.asRead {statements : List DefaultRuleStatement} {ruleName param : String}
    {value : String} (h : FitsCondition (mergedConditions statements ruleName) param value) :
    FitsCondition (mergedConditions statements ruleName) param (cStr value) := by
  rcases h with hNone | hMem
  · exact .inl hNone
  · have hEnded : Char.ofNat 0 ∉ value.toList := mergedConditions_ended hMem
    rw [cStr_eq_self hEnded]
    exact .inr hMem

section Usable

variable {statements : List DefaultRuleStatement} {soUserEnvironment : SUserEnvironment}
  {uiPeerDialect : PeerDialect}

/-- Where the answer is right, none of the exceptions of `SelectorUsable` comes up. -/
theorem usable_of_selects (h : SelectsConfigured statements soUserEnvironment uiPeerDialect) :
    SelectorUsable statements soUserEnvironment uiPeerDialect := by
  obtain ⟨-, hSelects⟩ := h
  have hMem := mem_pcrfDrsGetDefaultRuleList statements soUserEnvironment uiPeerDialect
  have hCondition : ∀ statement ∈ statements,
      mergedConditions statements statement.strRuleName.text ≠ [] := by
    intro statement hStatement hEmpty
    -- a name without conditions fits every session, and is not in the map
    have hShould : ShouldSelect statements soUserEnvironment uiPeerDialect
        statement.strRuleName.text := by
      refine ⟨⟨statement, hStatement, rfl⟩, ?_, ?_⟩
      · intro param _ value _
        exact .inl (by simp [hEmpty])
      · exact .inl (by simp [hEmpty])
    exact ((hMem _).mp ((hSelects _).mpr hShould)).1 hEmpty
  refine ⟨hCondition, ?_, ?_⟩
  · intro hNull statement hStatement hFits
    have hIn := (hMem statement.strRuleName.text).mpr
      ⟨hCondition statement hStatement, hFits, by simp [hNull]⟩
    exact ((hSelects _).mp hIn).dialect
  · intro statement hStatement hFits hDialect param hParam hKnown ⟨condition, hCond, hName⟩
    have hIn := (hMem statement.strRuleName.text).mpr
      ⟨hCondition statement hStatement, hFits, fun _ => hDialect⟩
    have hValue := ((hSelects _).mp hIn).known param hParam param.2.v
      (OtlValue.toOption_eq_some.mpr ⟨hKnown, rfl⟩)
    rcases hValue with hNone | hHas
    · exact absurd hName (hNone condition hCond)
    · exact mergedConditions_ended hHas

/-- A rule that is answered should be. -/
theorem shouldSelect_of_usable (hUsable : SelectorUsable statements soUserEnvironment uiPeerDialect)
    {ruleName : String} (hNonempty : mergedConditions statements ruleName ≠ [])
    (hFits : FitsAsRead (mergedConditions statements ruleName) soUserEnvironment)
    (hDialectKnown : soUserEnvironment.coIPCANType.isNull = false →
      FitsCondition (mergedConditions statements ruleName) "PEER_DIALECT"
        uiPeerDialect.dialectName) :
    ShouldSelect statements soUserEnvironment uiPeerDialect ruleName := by
  obtain ⟨statement, hStatement, rfl⟩ := configured_of_mergedConditions hNonempty
  have hDialect : FitsCondition (mergedConditions statements statement.strRuleName.text)
      "PEER_DIALECT" uiPeerDialect.dialectName := by
    cases hNull : soUserEnvironment.coIPCANType.isNull with
    | true => exact hUsable.dialectFits hNull statement hStatement hFits
    | false => exact hDialectKnown hNull
  refine ⟨⟨statement, hStatement, rfl⟩, ?_, hDialect⟩
  intro param hParam value hValue
  obtain ⟨hKnown, rfl⟩ := OtlValue.toOption_eq_some.mp hValue
  rcases hFits param hParam hKnown with hNone | hHas
  · exact .inl hNone
  · have hEnded := hUsable.noNull statement hStatement hFits hDialect param hParam hKnown
      ⟨_, hHas, rfl⟩
    rw [cStr_eq_self hEnded] at hHas
    exact .inr hHas

end Usable

/-- The default rules answered are the configured ones exactly under `SelectorUsable`. -/
theorem selectsConfigured_iff (statements : List DefaultRuleStatement)
    (soUserEnvironment : SUserEnvironment) (uiPeerDialect : PeerDialect) :
    SelectsConfigured statements soUserEnvironment uiPeerDialect ↔
      SelectorUsable statements soUserEnvironment uiPeerDialect := by
  constructor
  · exact usable_of_selects
  · intro hUsable
    refine ⟨pcrfDrsGetDefaultRuleList_nodup statements soUserEnvironment uiPeerDialect, ?_⟩
    intro ruleName
    rw [mem_pcrfDrsGetDefaultRuleList]
    constructor
    · rintro ⟨hNonempty, hFits, hDialectKnown⟩
      exact shouldSelect_of_usable hUsable hNonempty hFits hDialectKnown
    · intro hShould
      obtain ⟨statement, hStatement, rfl⟩ := hShould.configured
      refine ⟨hUsable.hasCondition statement hStatement, ?_, fun _ => hShould.dialect⟩
      intro param hParam hKnown
      exact (hShould.known param hParam param.2.v
        (OtlValue.toOption_eq_some.mpr ⟨hKnown, rfl⟩)).asRead

/-- A rule for one dialect, as a statement of the configuration. -/
def proceraStatement : DefaultRuleStatement where
  strRuleName := ⟨"proceraDefault", by decide⟩
  defaultRuleInfo := [(.peerDialect, ⟨"GX_PROCERA", by decide⟩)]

/-- A session of another dialect whose IP-CAN-Type is not known gets the rule. -/
theorem not_selectsConfigured_proceraStatement :
    ¬ SelectsConfigured [proceraStatement] {} .gxHwUgw := by
  rintro ⟨-, hSelects⟩
  have hIn : "proceraDefault" ∈ pcrfDrsGetDefaultRuleList
      (SelectorParser.parse [proceraStatement]).mapDefaultRule {} .gxHwUgw := by decide
  have hDialect := ((hSelects _).mp hIn).dialect
  revert hDialect
  unfold FitsCondition
  decide

end Pcrf
