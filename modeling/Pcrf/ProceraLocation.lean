import Pcrf.DefaultFallback
import Pcrf.Loaders
import Pcrf.RefreshRules

/-!
A new location is sent to the Procera sessions that have the address of an IP-CAN session. There
is one list of rules to be removed for all of them: what was loaded for one session is still in
it when that of the next one is loaded.
-/

namespace Pcrf

open Lib CallM

/-! ### The code -/

/-- A rule as it is loaded. -/
def locationRule (ruleName : String) : SDBAbonRule where
  strRuleName := ruleName
  isActive := true
  isRelevant := false
  coDynamicRuleFlag := .of 0
  coRuleGroupFlag := .of 0

/-- `pcrf_procera_db_load_location_rule`. The connection reads the names of the open rules that
are like `/User-Location/%`. -/
def pcrfProceraDbLoadLocationRule (reads : String → Nat → List String × Option Failure)
    (strSessionId : String) (vectRuleList : List SDBAbonRule) : Int × List SDBAbonRule :=
  let outcome :=
    Attempt.repeatOnce
      (Attempt.appendRows (fun ruleName => [locationRule ruleName]) (reads strSessionId))
      vectRuleList
  (Attempt.code outcome, outcome.1)

/-- The rule for the new location, also when it could not be named. -/
def newLocationRule (coECGI coCGI : OtlValue String) : SDBAbonRule :=
  (pcrfProceraMakeUliRule (if coECGI.isNull then coCGI else coECGI)
    { isRelevant := true, coDynamicRuleFlag := .of 0, coRuleGroupFlag := .of 0 }).2

/-- The loop of `pcrf_procera_change_uli`, with the reads for each place of the list. -/
def changeUliLoop (reads : Nat → String → Nat → List String × Option Failure)
    (listNewRule : List SDBAbonRule) :
    List SSessionInfo → Nat → List SDBAbonRule → FdM Unit
  | [], _, _ => return ()
  | sessInfo :: vectSessList, k, vectOldRule =>
    let loaded := pcrfProceraDbLoadLocationRule (reads k) sessInfo.strSessionId vectOldRule
    if loaded.1 = 0 then do
      -- the list is the same for all sessions, and nothing is taken out of it
      pcrfClientGxRar sessInfo (some {}) (some loaded.2) (some listNewRule) none
      changeUliLoop reads listNewRule vectSessList (k + 1) loaded.2
    else return ()

def pcrfProceraChangeUli
    (pool : Option (String → PeerDialect → Nat → List ProceraRow × Option Failure))
    (reads : Nat → String → Nat → List String × Option Failure) (strSessionId : String)
    (coECGI coCGI : OtlValue String) : FdM Unit :=
  let loaded := pcrfProceraDbLoadSessList pool strSessionId []
  if loaded.1 = 0 then changeUliLoop reads [newLocationRule coECGI coCGI] loaded.2 0 []
  else return ()

/-! ### What is asked of it -/

/-- The sessions that have the address, and the rules for locations that are open for a session. -/
structure LocationTables where
  sessions : List ProceraRow
  rules : String → List String
  distinct : ∀ strSessionId, (rules strSessionId).Nodup

/-- Where a first attempt fails, by how many rows it has read and the code of the exception. The
rules are loaded once for each place of the list. -/
structure FailedAttempts where
  sessions : Option (Nat × Int) := none
  rules : Nat → Option (Nat × Int) := fun _ => none

section

variable (tables : LocationTables) (failed : FailedAttempts)

def sessionReads : Nat → List ProceraRow × Option Failure :=
  Attempt.readingAgain tables.sessions failed.sessions

def locationReads (k : Nat) (strSessionId : String) : Nat → List String × Option Failure :=
  Attempt.readingAgain (tables.rules strSessionId) (failed.rules k)

/-- The requests that are sent when no call into freeDiameter fails. -/
def locationRars (strSessionId : String) (coECGI coCGI : OtlValue String) (st : AnswerState) :
    List RarMessage :=
  (exec (pcrfProceraChangeUli (some fun _ _ => sessionReads tables failed)
    (locationReads tables failed) strSessionId coECGI coCGI) ⟨fun _ => true, st⟩).2.state.sent

end

/-- The names are those of the rules, each once. -/
def Exactly (rules names : List String) : Prop :=
  names.Nodup ∧ ∀ name, name ∈ names ↔ name ∈ rules

/-- The request of a session takes it from its old rules to the new one. -/
structure MovesSession (rules : List String) (newRule : String) (row : ProceraRow)
    (rar : RarMessage) : Prop where
  session : rar.sessionId = row.strSessionId
  removed : Exactly rules (namesIn .chargingRuleRemove rar.avps)
  installed : namesIn .chargingRuleInstall rar.avps = [newRule]

/-- Every session gets its request. -/
def MovesSessions (tables : LocationTables) (failed : FailedAttempts) : Prop :=
  ∀ strSessionId coECGI coCGI st, ∃ rars,
    locationRars tables failed strSessionId coECGI coCGI st = st.sent ++ rars ∧
      List.Forall₂ (fun row rar => MovesSession (tables.rules row.strSessionId)
        (newLocationRule coECGI coCGI).strRuleName row rar) tables.sessions rars

/-- No failed attempt had read a row, and no session but the last one has an open rule. -/
structure NothingCarried (tables : LocationTables) (failed : FailedAttempts) : Prop where
  sessions : Attempt.leftBehind tables.sessions failed.sessions = []
  rules : ∀ k row, tables.sessions[k]? = some row →
    Attempt.leftBehind (tables.rules row.strSessionId) (failed.rules k) = []
  others : ∀ row ∈ tables.sessions.dropLast, tables.rules row.strSessionId = []

/-! ### The requests -/

section Requests

variable (tables : LocationTables) (failed : FailedAttempts)

/-- The names that are in the list once the rules of a session are loaded. -/
def loadedNames (k : Nat) (strSessionId : String) (names : List String) : List String :=
  names ++ Attempt.leftBehind (tables.rules strSessionId) (failed.rules k) ++
    tables.rules strSessionId

/-- What the requests for some sessions remove, from the names that are in the list before. -/
def removedNames : List ProceraRow → Nat → List String → List (List String)
  | [], _, _ => []
  | row :: rows, k, names =>
    let loaded := loadedNames tables failed k row.strSessionId names
    loaded :: removedNames rows (k + 1) loaded

theorem ruleNames_locationRules (names : List String) :
    ruleNames (names.map locationRule) = names := by
  simp [ruleNames, locationRule, Function.comp_def]

theorem unwanted_locationRules (names : List String) :
    unwanted (names.map locationRule) = names := by
  have all : (names.map locationRule).filter (fun rule => !rule.isRelevant) =
      names.map locationRule := by
    rw [List.filter_eq_self, List.forall_mem_map]
    exact fun _ _ => rfl
  rw [unwanted, all, ruleNames_locationRules]

theorem missing_newLocationRule (coECGI coCGI : OtlValue String) :
    missing [newLocationRule coECGI coCGI] = [(newLocationRule coECGI coCGI).strRuleName] := by
  have inactive : (newLocationRule coECGI coCGI).isActive = false := makeUliRule_isActive _ _
  simp [missing, ruleNames, inactive]

/-- Loading adds to the list what a failed attempt has read, and then all rules. -/
theorem load_locationRules (k : Nat) (strSessionId : String) (names : List String) :
    pcrfProceraDbLoadLocationRule (locationReads tables failed k) strSessionId
        (names.map locationRule) =
      (0, (loadedNames tables failed k strSessionId names).map locationRule) := by
  rw [pcrfProceraDbLoadLocationRule, locationReads, Attempt.appendRows_readingAgain, loadedNames,
    List.map_append, List.map_append, List.map_eq_flatMap, List.map_eq_flatMap,
    List.map_eq_flatMap]
  rfl

theorem changeUliLoop_cons (listNewRule : List SDBAbonRule) (row : ProceraRow)
    (vectSessList : List SSessionInfo) (k : Nat) (names : List String) :
    changeUliLoop (locationReads tables failed) listNewRule (row.sessInfo :: vectSessList) k
        (names.map locationRule) = (do
      pcrfClientGxRar row.sessInfo (some {})
        (some ((loadedNames tables failed k row.strSessionId names).map locationRule))
        (some listNewRule) none
      changeUliLoop (locationReads tables failed) listNewRule vectSessList (k + 1)
        ((loadedNames tables failed k row.strSessionId names).map locationRule)) := by
  rw [changeUliLoop, load_locationRules]
  exact if_pos rfl

/-- The request for a session removes all names that are in the list. -/
theorem exec_locationRar (row : ProceraRow) (names : List String) (coECGI coCGI : OtlValue String)
    {s : Answering AnswerState} (hs : s.AllSucceed) :
    ∃ store avps, exec (pcrfClientGxRar row.sessInfo (some {}) (some (names.map locationRule))
        (some [newLocationRule coECGI coCGI]) none) s =
      (some (), { s with
        state :=
          { store := store
            answer := avps
            sent := s.state.sent ++ [rarOf row.sessInfo none avps] } }) ∧
      namesIn .chargingRuleRemove avps = names ∧
      namesIn .chargingRuleInstall avps = [(newLocationRule coECGI coCGI).strRuleName] := by
  obtain ⟨avps, hexec, hremoved, hinstalled⟩ := exec_gxRar row.sessInfo (some {})
    (names.map locationRule) [newLocationRule coECGI coCGI] none hs
  have takes : row.sessInfo.uiPeerDialect.takesRules = true := rfl
  rw [namedFor, if_pos takes, unwanted_locationRules] at hremoved
  rw [namedFor, if_pos takes, missing_newLocationRule] at hinstalled
  exact ⟨_, avps, hexec, hremoved, hinstalled⟩

/-- What the loop sends to some sessions. -/
structure SentTo (newRule : String) (rows : List ProceraRow) (removed : List (List String))
    (rars : List RarMessage) : Prop where
  sessions : rars.map (·.sessionId) = rows.map (·.strSessionId)
  removed : rars.map (fun rar => namesIn .chargingRuleRemove rar.avps) = removed
  installed : ∀ rar ∈ rars, namesIn .chargingRuleInstall rar.avps = [newRule]

theorem exec_changeUliLoop (coECGI coCGI : OtlValue String) (rows : List ProceraRow) (k : Nat)
    (names : List String) {s : Answering AnswerState} (hs : s.AllSucceed) :
    ∃ rars,
      (exec (changeUliLoop (locationReads tables failed) [newLocationRule coECGI coCGI]
        (rows.map ProceraRow.sessInfo) k (names.map locationRule)) s).2.state.sent =
          s.state.sent ++ rars ∧
        SentTo (newLocationRule coECGI coCGI).strRuleName rows
          (removedNames tables failed rows k names) rars := by
  induction rows generalizing k names s with
  | nil => exact ⟨[], (List.append_nil _).symm, rfl, rfl, by simp⟩
  | cons row rows ih =>
    obtain ⟨store, avps, hexec, hremoved, hinstalled⟩ := exec_locationRar row
      (loadedNames tables failed k row.strSessionId names) coECGI coCGI hs
    -- the requests for the other sessions start with what was loaded so far
    generalize hsent : ({ s with state := _ } : Answering AnswerState) = sent at hexec
    have hs' : sent.AllSucceed := hsent ▸ hs
    obtain ⟨rars, hrest, rest⟩ := ih (k + 1)
      (loadedNames tables failed k row.strSessionId names) hs'
    refine ⟨rarOf row.sessInfo none avps :: rars, ?_, ?_, ?_, ?_⟩
    · rw [List.map_cons, changeUliLoop_cons, exec_bind_some hexec]
      refine hrest.trans ?_
      subst hsent
      exact List.append_assoc _ _ _
    · rw [List.map_cons, List.map_cons, rest.sessions]
      rfl
    · rw [List.map_cons, rest.removed, removedNames]
      exact congrArg (fun first => first :: _) hremoved
    · exact List.forall_mem_cons.mpr ⟨hinstalled, rest.installed⟩

/-- The sessions that a failed attempt has read come before all sessions. -/
theorem exec_changeUli (strSessionId : String) (coECGI coCGI : OtlValue String)
    (st : AnswerState) :
    ∃ rars, locationRars tables failed strSessionId coECGI coCGI st = st.sent ++ rars ∧
      SentTo (newLocationRule coECGI coCGI).strRuleName
        (Attempt.leftBehind tables.sessions failed.sessions ++ tables.sessions)
        (removedNames tables failed
          (Attempt.leftBehind tables.sessions failed.sessions ++ tables.sessions) 0 []) rars := by
  have load : pcrfProceraDbLoadSessList (some fun _ _ => sessionReads tables failed)
      strSessionId [] =
        (0, (Attempt.leftBehind tables.sessions failed.sessions ++ tables.sessions).map
          ProceraRow.sessInfo) := by
    rw [pcrfProceraDbLoadSessList, sessionReads]
    simp only [Attempt.appendRows_readingAgain, List.nil_append, List.map_eq_flatMap,
      List.flatMap_append]
    rfl
  have run : pcrfProceraChangeUli (some fun _ _ => sessionReads tables failed)
      (locationReads tables failed) strSessionId coECGI coCGI =
        changeUliLoop (locationReads tables failed) [newLocationRule coECGI coCGI]
          ((Attempt.leftBehind tables.sessions failed.sessions ++ tables.sessions).map
            ProceraRow.sessInfo) 0 [] := by
    rw [pcrfProceraChangeUli, load]
    exact if_pos rfl
  rw [locationRars, run]
  exact exec_changeUliLoop tables failed coECGI coCGI _ 0 [] rfl

end Requests

/-! ### Which rules are removed -/

section Removed

variable {tables : LocationTables} {failed : FailedAttempts}

/-- What stands in front of the rules would be removed with them. -/
theorem exactly_append_iff {rules : List String} (distinct : rules.Nodup) (names : List String) :
    Exactly rules (names ++ rules) ↔ names = [] := by
  constructor
  · rintro ⟨nodup, same⟩
    refine List.eq_nil_iff_forall_not_mem.mpr fun name hname => ?_
    -- a name in front is one of the rules, and would be there twice
    have isRule := (same name).mp (List.mem_append_left _ hname)
    exact (List.nodup_append.mp nodup).2.2 name hname name isRule rfl
  · rintro rfl
    exact ⟨distinct, fun name => Iff.rfl⟩

/-- The first place, and all places behind it. -/
theorem forall_getElem?_cons_iff {α : Type} {P : Nat → α → Prop} (a : α) (as : List α) :
    (∀ i x, (a :: as)[i]? = some x → P i x) ↔
      P 0 a ∧ ∀ i x, as[i]? = some x → P (i + 1) x := by
  constructor
  · exact fun h => ⟨h 0 a rfl, fun i x hx => h (i + 1) x hx⟩
  · rintro ⟨first, rest⟩ i x hx
    cases i with
    | zero =>
      cases hx
      exact first
    | succ i => exact rest i x hx

/-- The names in the list when it is loaded for the first time, the rows that a failed attempt
leaves behind, and the rules of any session but the last one are too many. -/
theorem forall₂_removedNames_iff (rows : List ProceraRow) (k : Nat) (names : List String) :
    List.Forall₂ (fun row removed => Exactly (tables.rules row.strSessionId) removed) rows
        (removedNames tables failed rows k names) ↔
      (rows ≠ [] → names = []) ∧
        (∀ i row, rows[i]? = some row →
          Attempt.leftBehind (tables.rules row.strSessionId) (failed.rules (k + i)) = []) ∧
        ∀ row ∈ rows.dropLast, tables.rules row.strSessionId = [] := by
  induction rows generalizing k names with
  | nil => simp [removedNames]
  | cons row rows ih =>
    have next (i : Nat) : k + 1 + i = k + (i + 1) := by omega
    rw [removedNames, List.forall₂_cons, ih, loadedNames,
      exactly_append_iff (tables.distinct row.strSessionId), List.append_eq_nil_iff,
      List.append_eq_nil_iff, List.append_eq_nil_iff, forall_getElem?_cons_iff, Nat.add_zero]
    simp only [next]
    cases rows with
    | nil => simp
    | cons second rows =>
      rw [List.dropLast_cons_of_ne_nil (List.cons_ne_nil second rows), List.forall_mem_cons]
      -- what was loaded is carried on, as there is a session to come
      constructor
      · rintro ⟨⟨names, left⟩, carried, places, others⟩
        obtain ⟨-, rules⟩ := carried (List.cons_ne_nil second rows)
        exact ⟨fun _ => names, ⟨left, places⟩, rules, others⟩
      · rintro ⟨names, ⟨left, places⟩, rules, others⟩
        have empty := names (List.cons_ne_nil row _)
        exact ⟨⟨empty, left⟩, fun _ => ⟨⟨empty, left⟩, rules⟩, places, others⟩

/-- The requests that were sent do what is asked of them exactly if they remove the right rules. -/
theorem forall₂_movesSession_iff {newRule : String} {rows : List ProceraRow}
    {removed : List (List String)} {rars : List RarMessage}
    (sent : SentTo newRule rows removed rars) :
    List.Forall₂ (fun row rar => MovesSession (tables.rules row.strSessionId) newRule row rar)
        rows rars ↔
      List.Forall₂ (fun row removed => Exactly (tables.rules row.strSessionId) removed) rows
        removed := by
  obtain ⟨sessions, rfl, installed⟩ := sent
  induction rows generalizing rars with
  | nil =>
    rw [List.map_nil, List.map_eq_nil_iff] at sessions
    subst sessions
    exact iff_of_true .nil .nil
  | cons row rows ih =>
    cases rars with
    | nil => exact absurd sessions (List.cons_ne_nil _ _).symm
    | cons rar rars =>
      rw [List.map_cons, List.map_cons, List.cons.injEq] at sessions
      rw [List.forall_mem_cons] at installed
      rw [List.map_cons, List.forall₂_cons, List.forall₂_cons, ih sessions.2 installed.2]
      exact and_congr_left' ⟨fun h => h.removed, fun h => ⟨sessions.1, h, installed.1⟩⟩

/-- Where every session gets its one request, no session had been read by a failed attempt, and
the requests remove the right rules. -/
theorem movesSessions_removed (moves : MovesSessions tables failed) :
    Attempt.leftBehind tables.sessions failed.sessions = [] ∧
      List.Forall₂ (fun row removed => Exactly (tables.rules row.strSessionId) removed)
        tables.sessions (removedNames tables failed tables.sessions 0 []) := by
  obtain ⟨rars, hrars, moved⟩ := moves "" .empty .empty {}
  obtain ⟨rars', hsent, sent⟩ := exec_changeUli tables failed "" .empty .empty {}
  have same : rars = rars' := List.append_cancel_left (hrars.symm.trans hsent)
  subst same
  have left : Attempt.leftBehind tables.sessions failed.sessions = [] := by
    have lengths := congrArg List.length sent.sessions
    rw [List.length_map, ← moved.length_eq, List.length_map, List.length_append] at lengths
    exact List.eq_nil_of_length_eq_zero (by omega)
  rw [left, List.nil_append] at sent
  exact ⟨left, (forall₂_movesSession_iff sent).mp moved⟩

theorem movesSessions_iff (tables : LocationTables) (failed : FailedAttempts) :
    MovesSessions tables failed ↔ NothingCarried tables failed := by
  constructor
  · intro moves
    obtain ⟨left, removed⟩ := movesSessions_removed moves
    obtain ⟨-, rules, others⟩ := (forall₂_removedNames_iff _ 0 []).mp removed
    simp only [Nat.zero_add] at rules
    exact ⟨left, rules, others⟩
  · intro nothing strSessionId coECGI coCGI st
    obtain ⟨rars, hsent, sent⟩ := exec_changeUli tables failed strSessionId coECGI coCGI st
    rw [nothing.sessions, List.nil_append] at sent
    refine ⟨rars, hsent, (forall₂_movesSession_iff sent).mpr ?_⟩
    refine (forall₂_removedNames_iff tables.sessions 0 []).mpr ⟨fun _ => rfl, ?_, nothing.others⟩
    simpa only [Nat.zero_add] using nothing.rules

end Removed

/-- Two sessions, the first of which has an open rule. -/
def twoProceraTables : LocationTables where
  sessions := [⟨"procera;1", .of "gw", .of "realm"⟩, ⟨"procera;2", .of "gw", .of "realm"⟩]
  rules strSessionId := if strSessionId = "procera;1" then ["/User-Location/17/3"] else []
  distinct strSessionId := by
    split
    · exact List.nodup_singleton _
    · exact List.nodup_nil

/-- The second session is told to remove the rule of the first. -/
theorem not_movesSessions_two : ¬ ∀ tables failed, MovesSessions tables failed := by
  intro h
  obtain ⟨-, removed⟩ := movesSessions_removed (h twoProceraTables {})
  cases removed with
  | cons first rest =>
    cases rest with
    | cons second rest =>
      have isRule := (second.2 "/User-Location/17/3").mp (by decide)
      exact absurd isRule (by decide)

end Pcrf
