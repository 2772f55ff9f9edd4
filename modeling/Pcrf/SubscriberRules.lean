import Pcrf.Lib.Retry
import Pcrf.Lib.Store
import Pcrf.Types

/-!
The rules of a subscriber: their names come from the database as one text, their descriptions
from the cache of rules. A rule list can be empty because there are no rules, because none of
them is known, or because the database did not answer.
-/

namespace Pcrf

open Lib

/-! ### The cache of rules -/

/-- `g_pmapRule`: the descriptions of rules under their names. What the loader stores is
relevant and not active. -/
structure RuleCache where
  mapRule : Store String SDBAbonRule
  loaded : ∀ name rule, mapRule name = some rule →
    rule.strRuleName = name ∧ rule.isActive = false ∧ rule.isRelevant = true

namespace RuleCache

def empty : RuleCache where
  mapRule := Store.empty
  loaded := fun _ rule h => absurd h.symm (Option.some_ne_none rule)

/-- `std::map::insert` of a row that was loaded: the first row of a name stays. -/
def insert (cache : RuleCache) (row : SDBAbonRule) : RuleCache :=
  if h : cache.mapRule row.strRuleName = none then
    { mapRule := cache.mapRule.set row.strRuleName
        { row with isActive := false, isRelevant := true }
      loaded := by
        intro name rule hrule
        by_cases hname : name = row.strRuleName
        · subst hname
          rw [Store.set_self] at hrule
          obtain rfl := Option.some.inj hrule
          exact ⟨rfl, rfl, rfl⟩
        · rw [Store.set_of_ne hname] at hrule
          exact cache.loaded name rule hrule }
  else cache

def ofRows (rows : List SDBAbonRule) : RuleCache := rows.foldl insert empty

end RuleCache

/-- `none` models `ENODATA`. -/
def pcrfRuleCacheGetRuleInfo (cache : RuleCache) (ruleName : String) : Option SDBAbonRule :=
  cache.mapRule ruleName

def loadRuleInfo (cache : RuleCache) (listRuleList : List String)
    (listAbonRules : List SDBAbonRule) : List SDBAbonRule :=
  listAbonRules ++ listRuleList.filterMap (pcrfRuleCacheGetRuleInfo cache)

/-- The rule an SCE gets: of the lowest precedence level, and of these the first. -/
def preferredRule (first : SDBAbonRule) (rules : List SDBAbonRule) : SDBAbonRule :=
  rules.foldl
    (fun rule next => if rule.coPrecedenceLevel.v > next.coPrecedenceLevel.v then next else rule)
    first

def pcrfServerLoadRuleInfo (cache : RuleCache) (listRuleName : List String)
    (uiPeerDialect : PeerDialect) (listAbonRules : List SDBAbonRule) : List SDBAbonRule :=
  if listRuleName.isEmpty then listAbonRules
  else
    let loaded := loadRuleInfo cache listRuleName listAbonRules
    match uiPeerDialect, loaded with
    | .gxCiscoSce, first :: rules => [preferredRule first rules]
    | _, _ => loaded

/-! ### The answer of the database -/

/-- The name in a row: what stands before its first tab. -/
def pcrfParseRuleRow (ruleRow : List Char) : Option String :=
  let name := ruleRow.takeWhile (· ≠ '\t')
  if name.length = ruleRow.length ∨ name.length = 0 then none else some (String.ofList name)

/-- The names in the rows of a text; what follows the last newline is not a row. -/
def pcrfParseRuleList (ruleList : String) : List String :=
  (ruleList.toList.splitOn '\n').dropLast.filterMap pcrfParseRuleRow

/-- How an attempt to read one answer from a stream ends; an exception can still come while
the stream is closed. -/
inductive StreamOutcome (α : Type) where
  | failed (failure : Failure)
  | atEnd (closing : Option Failure)
  | answered (answer : α) (closing : Option Failure)

namespace StreamOutcome

variable {α : Type}

/-- The exception of the attempt. -/
def failure : StreamOutcome α → Option Failure
  | .failed failure => some failure
  | .atEnd closing => closing
  | .answered _ closing => closing

/-- What the attempt has read. -/
def answer : StreamOutcome α → Option α
  | .failed _ => none
  | .atEnd _ => none
  | .answered answer _ => some answer

/-- The attempt that decides: the second one when the connection came back after the first. -/
def last (outcomes : Nat → StreamOutcome α) : StreamOutcome α :=
  if (outcomes 0).failure.any (·.restored) then outcomes 1 else outcomes 0

/-- The decisive attempt has read an answer and no exception ended it. -/
def returned (outcomes : Nat → StreamOutcome α) : Bool :=
  (last outcomes).answer.isSome && (last outcomes).failure.isNone

/-- Everything that was read, by whichever attempt. -/
def reads (outcomes : Nat → StreamOutcome α) : List α :=
  if (outcomes 0).failure.any (·.restored) then
    (outcomes 0).answer.toList ++ (outcomes 1).answer.toList
  else (outcomes 0).answer.toList

end StreamOutcome

/-- The arguments of `ps.GetSubRules2`. -/
structure SubRulesArgs where
  strSubscriberId : String
  uiPeerDialect : PeerDialect
  coIPCANType : OtlValue String
  coRATType : OtlValue String
  coCalledStationId : OtlValue String
  coSGSNAddress : OtlValue String
  coIMEI : OtlValue String

/-- What the database answers to each attempt of a query. -/
abbrev RuleListQuery := SubRulesArgs → Nat → StreamOutcome String

/-- The return code and the names so far. -/
structure RuleListResult where
  iRetVal : Int := 0
  listRuleList : List String := []

def loadAbonRuleListAttempt (outcome : StreamOutcome String) : Attempt RuleListResult :=
  fun result =>
    match outcome with
    | .failed failure => (result, some failure)
    | .atEnd closing => ({ result with iRetVal := 1403 }, closing)
    | .answered ruleList closing =>
      ({ result with listRuleList := result.listRuleList ++ pcrfParseRuleList ruleList }, closing)

/-- `none` is a null connection, answered with `EINVAL` (22). -/
def pcrfDbLoadAbonRuleList (pcoDBConn : Option RuleListQuery) (args : SubRulesArgs) :
    RuleListResult :=
  match pcoDBConn with
  | none => { iRetVal := 22 }
  | some query =>
    match Attempt.repeatOnce (fun k => loadAbonRuleListAttempt (query args k)) {} with
    | (result, none) => result
    | (result, some failure) => { result with iRetVal := failure.code }

/-- The result of the query is not looked at; the code returned is always 0. -/
def pcrfServerCreateAbonRuleList (cache : RuleCache) (pcoDBConn : Option RuleListQuery)
    (args : SubRulesArgs) : List SDBAbonRule :=
  pcrfServerLoadRuleInfo cache (pcrfDbLoadAbonRuleList pcoDBConn args).listRuleList
    args.uiPeerDialect []

/-! ### What the list holds -/

theorem loadAttempt_names (outcome : StreamOutcome String) (result : RuleListResult) :
    (loadAbonRuleListAttempt outcome result).1.listRuleList =
      result.listRuleList ++ outcome.answer.toList.flatMap pcrfParseRuleList := by
  cases outcome <;> simp [loadAbonRuleListAttempt, StreamOutcome.answer]

theorem loadAttempt_failure (outcome : StreamOutcome String) (result : RuleListResult) :
    (loadAbonRuleListAttempt outcome result).2 = outcome.failure := by
  cases outcome <;> rfl

/-- The names in everything that was read. -/
def deliveredNames (pcoDBConn : Option RuleListQuery) (args : SubRulesArgs) : List String :=
  match pcoDBConn with
  | none => []
  | some query => (StreamOutcome.reads (query args)).flatMap pcrfParseRuleList

theorem load_names (pcoDBConn : Option RuleListQuery) (args : SubRulesArgs) :
    (pcrfDbLoadAbonRuleList pcoDBConn args).listRuleList = deliveredNames pcoDBConn args := by
  cases pcoDBConn with
  | none => rfl
  | some query =>
    have hnames : (Attempt.repeatOnce (fun k => loadAbonRuleListAttempt (query args k))
        {}).1.listRuleList = deliveredNames (some query) args := by
      rw [Attempt.repeatOnce_eq, loadAttempt_failure]
      simp only [deliveredNames, StreamOutcome.reads]
      split
      · -- the list of the first attempt is not cleared before the second
        rw [loadAttempt_names, loadAttempt_names, List.flatMap_append]
        rfl
      · rw [loadAttempt_names]
        rfl
    rw [← hnames]
    simp only [pcrfDbLoadAbonRuleList]
    split
    next h => rw [h]
    next h => rw [h]

/-- What the cache of rules lists is relevant and not active. -/
def Fresh (rules : List SDBAbonRule) : Prop :=
  ∀ rule ∈ rules, rule.isActive = false ∧ rule.isRelevant = true

theorem loadRuleInfo_fresh (cache : RuleCache) (names : List String)
    {rules : List SDBAbonRule} (h : Fresh rules) : Fresh (loadRuleInfo cache names rules) := by
  intro rule hrule
  rcases List.mem_append.mp hrule with hold | hnew
  · exact h rule hold
  · obtain ⟨name, -, hname⟩ := List.mem_filterMap.mp hnew
    exact (cache.loaded name rule hname).2

theorem preferredRule_mem (first : SDBAbonRule) (rules : List SDBAbonRule) :
    preferredRule first rules ∈ first :: rules := by
  simp only [preferredRule]
  -- the rule preferred so far is the one the rest is compared with
  induction rules generalizing first with
  | nil => exact List.mem_cons_self ..
  | cons next rules ih =>
    rw [List.foldl_cons]
    split
    · exact List.mem_cons_of_mem _ (ih next)
    · rcases List.mem_cons.mp (ih first) with heq | hmem
      · rw [heq]
        exact List.mem_cons_self ..
      · exact List.mem_cons_of_mem _ (List.mem_cons_of_mem _ hmem)

/-- Loading descriptions gives some of the known rules, or leaves the list as it was. -/
theorem mem_loadRuleInfo {cache : RuleCache} {names : List String} {dialect : PeerDialect}
    {rules : List SDBAbonRule} {rule : SDBAbonRule}
    (h : rule ∈ pcrfServerLoadRuleInfo cache names dialect rules) :
    rule ∈ loadRuleInfo cache names rules := by
  simp only [pcrfServerLoadRuleInfo] at h
  split at h
  · exact List.mem_append_left _ h
  · split at h
    next first others hloaded =>
      -- an SCE gets a single rule, which is one of those that were loaded
      rw [hloaded]
      exact (List.mem_singleton.mp h) ▸ preferredRule_mem first others
    · exact h

theorem createAbonRuleList_fresh (cache : RuleCache) (pcoDBConn : Option RuleListQuery)
    (args : SubRulesArgs) : Fresh (pcrfServerCreateAbonRuleList cache pcoDBConn args) :=
  fun rule hrule => loadRuleInfo_fresh cache _ (fun _ hnil => absurd hnil List.not_mem_nil)
    rule (mem_loadRuleInfo hrule)

/-- The list is empty exactly when no name that was delivered is in the cache of rules. -/
theorem createAbonRuleList_eq_nil_iff (cache : RuleCache) (pcoDBConn : Option RuleListQuery)
    (args : SubRulesArgs) :
    pcrfServerCreateAbonRuleList cache pcoDBConn args = [] ↔
      ∀ name ∈ deliveredNames pcoDBConn args, pcrfRuleCacheGetRuleInfo cache name = none := by
  simp only [pcrfServerCreateAbonRuleList, pcrfServerLoadRuleInfo, load_names, loadRuleInfo,
    List.nil_append]
  generalize deliveredNames pcoDBConn args = names
  rw [← List.filterMap_eq_nil_iff]
  split
  next hempty => simp [List.isEmpty_iff.mp hempty]
  next =>
    split
    next hloaded => simp [hloaded]
    · rfl

end Pcrf
