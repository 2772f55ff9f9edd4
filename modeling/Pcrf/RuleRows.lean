import Mathlib.Data.List.TakeWhile
import Pcrf.Lib.Fields
import Pcrf.Lib.Scan
import Pcrf.SessionRuleTable
import Pcrf.SubscriberRules

/-!
The text with the rules of a subscriber in full: each row has the name of a rule, a tab and the
time when the subscriber is to be refreshed, if there is one. Rows and fields are found by their
positions.
-/

namespace Pcrf

open Lib

/-! ### Times -/

/-- An unsigned number that was stored to an `int`. -/
def storedInt (n : UInt32) : Int := n.toInt32.toInt

/-- `"%u.%u.%u %u:%u:%u"`, when all six numbers are read. The text ends at its first null. -/
def scanDateTime (strDateTime : List Char) : Option Tm := do
  let (tmMday, text) ← scanUnsigned (strDateTime.takeWhile (· ≠ Char.ofNat 0))
  let (tmMon, text) ← scanUnsigned (← scanChar '.' text)
  let (tmYear, text) ← scanUnsigned (← scanChar '.' text)
  -- a blank in the format stands for any white space
  let (tmHour, text) ← scanUnsigned (skipBlanks text)
  let (tmMin, text) ← scanUnsigned (← scanChar ':' text)
  let (tmSec, _) ← scanUnsigned (← scanChar ':' text)
  return {
    tmYear := storedInt tmYear
    tmMon := storedInt tmMon
    tmMday := storedInt tmMday
    tmHour := storedInt tmHour
    tmMin := storedInt tmMin
    tmSec := storedInt tmSec }

/-- `pcrf_parse_date_time` -/
def pcrfParseDateTime (strDateTime : List Char) (soDateTime : OtlValue OtlDatetime) :
    OtlValue OtlDatetime :=
  match scanDateTime strDateTime with
  | some soTM =>
    pcrfFillOtlDatetime { soTM with tmYear := soTM.tmYear - 1900, tmMon := soTM.tmMon - 1 }
  | none => soDateTime

/-! ### Rows -/

def insertRefqueueText : String :=
  "insert into ps.refreshQueue " ++
  "(identifier_type, identifier, module, refresh_date, action) " ++
  "values " ++
  "(:identifier_type /*char[64]*/, :identifier/*char[64]*/, 'pcrf', " ++
  ":refresh_date/*timestamp*/, :action/*char[20]*/)"

/-- `pcrf_server_db_insert_refqueue`, when the clock shows `now`. -/
def pcrfServerDbInsertRefqueue (now : Tm) (identifierType : Option String)
    (strIdentifier : String) (dateTime : Option OtlDatetime) (action : Option String) :
    SSQLRequestInfo SqlParam where
  pszRequest := some insertRefqueueText
  plistParamList := some [
    .otlString (identifierType.elim .empty .of),
    .otlString (.of strIdentifier),
    .datetime (dateTime.elim (pcrfFillOtlDatetime now) .of),
    .otlString (action.elim .empty .of)]
  pszReqName := "insert refresh record"

/-- `find( c, pos )`. `none` is `npos`. -/
def findFrom (c : Char) (text : List Char) (pos : Nat) : Option Nat :=
  ((text.drop pos).findIdx? (· == c)).map (pos + ·)

/-- The list of rules, and the requests that have been handed to the queue. -/
structure RuleListState where
  listRuleList : List String := []
  enqueued : List (SSQLRequestInfo SqlParam) := []
  deriving Repr, DecidableEq

namespace RuleListState

variable (now : Tm) (strSubscriberId : String)

/-- `pcrf_parse_rule_row` -/
def pcrfParseRuleRow (st : RuleListState) (strRuleRow : List Char) : RuleListState :=
  match findFrom '\t' strRuleRow 0 with
  | none => st
  | some stEnd =>
    if stEnd = 0 then st
    else
      let st := { st with
        listRuleList := st.listRuleList ++ [String.ofList (strRuleRow.take stEnd)] }
      let stEnd := stEnd + 1
      -- a time has just the length of the format
      if strRuleRow.length - stEnd = 19 then
        let coRefreshTime := pcrfParseDateTime (strRuleRow.drop stEnd) .empty
        if coRefreshTime.isNull then st
        else
          { st with
            enqueued := st.enqueued ++
              [pcrfServerDbInsertRefqueue now (some "subscriber_id") strSubscriberId
                (some coRefreshTime.v) none] }
      else st

/-- The loop of `pcrf_parse_rule_list` from a position. `none` when it has not ended after so
many turns. -/
def parseRuleRows (strRuleList : List Char) : Nat → Nat → RuleListState → Option RuleListState
  | 0, _, _ => none
  | turns + 1, stBeginRow, st =>
    match findFrom '\n' strRuleList stBeginRow with
    -- what stands behind the last newline is no row
    | none => some st
    | some stEndRow =>
      let strRuleRow := (strRuleList.drop stBeginRow).take (stEndRow - stBeginRow)
      parseRuleRows strRuleList turns (stEndRow + 1)
        (st.pcrfParseRuleRow now strSubscriberId strRuleRow)

/-- `pcrf_parse_rule_list` -/
def pcrfParseRuleList (st : RuleListState) (strRuleList : List Char) : Option RuleListState :=
  parseRuleRows now strSubscriberId strRuleList (strRuleList.length + 1) 0 st

end RuleListState

/-! ### What is written -/

/-- The name of a rule that a row can have. -/
def IsRuleName (name : String) : Prop :=
  name ≠ "" ∧ '\t' ∉ name.toList ∧ '\n' ∉ name.toList

instance (name : String) : Decidable (IsRuleName name) :=
  inferInstanceAs (Decidable (_ ∧ _))

/-- A date and time whose numbers have no more digits than the format gives them, as all valid
ones have. -/
structure DateTime where
  day : Nat
  month : Nat
  year : Nat
  hour : Nat
  minute : Nat
  second : Nat
  day_lt : day < 10 ^ 2
  month_lt : month < 10 ^ 2
  year_lt : year < 10 ^ 4
  hour_lt : hour < 10 ^ 2
  minute_lt : minute < 10 ^ 2
  second_lt : second < 10 ^ 2

namespace DateTime

/-- `DD.MM.YYYY HH:MM:SS` -/
def text (time : DateTime) : List Char :=
  paddedDigits 2 time.day ++ '.' :: (paddedDigits 2 time.month ++ '.' ::
    (paddedDigits 4 time.year ++ ' ' :: (paddedDigits 2 time.hour ++ ':' ::
      (paddedDigits 2 time.minute ++ ':' :: paddedDigits 2 time.second))))

def otl (time : DateTime) : OtlDatetime where
  year := time.year
  month := time.month
  day := time.day
  hour := time.hour
  minute := time.minute
  second := time.second

end DateTime

structure WrittenRow where
  name : String
  isName : IsRuleName name
  time : Option DateTime

namespace WrittenRow

def fields (row : WrittenRow) : List Char :=
  row.name.toList ++ '\t' :: row.time.elim [] DateTime.text

def text (rows : List WrittenRow) : List Char :=
  rows.flatMap fun row => row.fields ++ ['\n']

/-- The refresh for a row with a time. -/
def refresh (now : Tm) (strSubscriberId : String) (row : WrittenRow) :
    Option (SSQLRequestInfo SqlParam) :=
  row.time.map fun time =>
    pcrfServerDbInsertRefqueue now (some "subscriber_id") strSubscriberId (some time.otl) none

end WrittenRow

/-! ### Reading a time -/

section Times

theorem storedInt_ofNat {n : Nat} (h : n < 10 ^ 4) : storedInt (UInt32.ofNat n) = n := by
  have kept : (UInt32.ofNat n).toNat = n := UInt32.toNat_ofNat_of_lt' (h.trans (by decide))
  have positive : 2 * (UInt32.ofNat n).toBitVec.toNat < 2 ^ 32 := by
    rw [UInt32.toNat_toBitVec, kept]
    omega
  rw [storedInt, ← Int32.toInt_toBitVec, UInt32.toBitVec_toInt32,
    BitVec.toInt_eq_toNat_of_lt positive, UInt32.toNat_toBitVec, kept]

namespace DateTime

theorem length_text (time : DateTime) : time.text.length = 19 := by
  simp [text, length_paddedDigits]

/-- Digits, and the characters of the format. -/
theorem mem_text {time : DateTime} {c : Char} (h : c ∈ time.text) :
    c.isDigit = true ∨ c ∈ ['.', ' ', ':'] := by
  simp only [text, List.mem_append, List.mem_cons] at h
  have digit {count n : Nat} (h : c ∈ paddedDigits count n) : c.isDigit = true :=
    isDigit_of_mem_paddedDigits h
  rcases h with h | rfl | h | rfl | h | rfl | h | rfl | h | rfl | h
  all_goals first | exact .inl (digit h) | exact .inr (by decide)

theorem null_notMem_text (time : DateTime) : Char.ofNat 0 ∉ time.text := by
  intro h
  exact absurd (mem_text h) (by decide)

theorem newline_notMem_text (time : DateTime) : '\n' ∉ time.text := by
  intro h
  exact absurd (mem_text h) (by decide)

/-- All six numbers are read where they were written. -/
theorem scanDateTime_text (time : DateTime) :
    scanDateTime time.text = some {
      tmYear := time.year
      tmMon := time.month
      tmMday := time.day
      tmHour := time.hour
      tmMin := time.minute
      tmSec := time.second } := by
  have whole : time.text.takeWhile (· ≠ Char.ofNat 0) = time.text := by
    rw [List.takeWhile_eq_self_iff]
    intro c hc
    have hne : c ≠ Char.ofNat 0 := fun h => time.null_notMem_text (h ▸ hc)
    exact decide_eq_true hne
  -- each number ends at the character of the format that follows it
  have number {count n : Nat} (hcount : 0 < count) (h : n < 10 ^ count) {c : Char}
      (hc : c.isDigit = false) (text : List Char) :
      scanUnsigned (paddedDigits count n ++ c :: text) = some (UInt32.ofNat n, c :: text) :=
    scanUnsigned_paddedDigits hcount h (digitsEnd_cons hc text)
  have last : scanUnsigned (paddedDigits 2 time.second) =
      some (UInt32.ofNat time.second, []) := by
    have read := scanUnsigned_paddedDigits (by decide) time.second_lt digitsEnd_nil
    rwa [List.append_nil] at read
  have point : '.'.isDigit = false := by decide
  have blank : ' '.isDigit = false := by decide
  have colon : ':'.isDigit = false := by decide
  have two : 0 < 2 := by decide
  have four : 0 < 4 := by decide
  have small {n : Nat} (h : n < 10 ^ 2) : n < 10 ^ 4 := h.trans (by decide)
  unfold scanDateTime
  rw [whole, text]
  simp only [Option.bind_eq_bind, Option.bind_some, scanChar_cons,
    number two time.day_lt point, number two time.month_lt point, number four time.year_lt blank,
    skipBlanks_paddedDigits two, number two time.hour_lt colon, number two time.minute_lt colon,
    last]
  simp only [storedInt_ofNat (small time.day_lt), storedInt_ofNat (small time.month_lt),
    storedInt_ofNat time.year_lt, storedInt_ofNat (small time.hour_lt),
    storedInt_ofNat (small time.minute_lt), storedInt_ofNat (small time.second_lt)]
  rfl

theorem pcrfParseDateTime_text (time : DateTime) (soDateTime : OtlValue OtlDatetime) :
    pcrfParseDateTime time.text soDateTime = .of time.otl := by
  rw [pcrfParseDateTime, scanDateTime_text]
  simp [pcrfFillOtlDatetime, otl]

end DateTime

end Times

/-! ### Rows and fields -/

section Rows

/-- The position that is found ends the part without the character. -/
theorem findFrom_some {c : Char} {text : List Char} {pos i : Nat}
    (h : findFrom c text pos = some i) :
    c ∉ (text.drop pos).take (i - pos) ∧
      text.drop pos = (text.drop pos).take (i - pos) ++ c :: text.drop (i + 1) := by
  obtain ⟨j, hj, rfl⟩ := Option.map_eq_some_iff.mp h
  obtain ⟨hlt, hat, before⟩ := List.findIdx?_eq_some_iff_getElem.mp hj
  have here : (text.drop pos)[j] = c := by simpa using hat
  rw [Nat.add_sub_cancel_left]
  constructor
  · intro hmem
    obtain ⟨k, hk, hkc⟩ := List.mem_take_iff_getElem.mp hmem
    exact before k (by omega) (by simpa using hkc)
  · have rest : (text.drop pos).drop j = c :: text.drop (pos + j + 1) := by
      rw [List.drop_eq_getElem_cons hlt, here, List.drop_drop, Nat.add_assoc]
    rw [← rest, List.take_append_drop]

theorem findFrom_none {c : Char} {text : List Char} {pos : Nat}
    (h : findFrom c text pos = none) : c ∉ text.drop pos := by
  intro hmem
  have absent := List.findIdx?_eq_none_iff.mp (Option.map_eq_none_iff.mp h) c hmem
  simp at absent

/-- The first character of its kind is the one that is found. -/
theorem findFrom_append {c : Char} {front : List Char} (h : c ∉ front) (rest : List Char) :
    findFrom c (front ++ c :: rest) 0 = some front.length := by
  have absent : front.findIdx? (· == c) = none :=
    List.findIdx?_eq_none_iff.mpr fun x hx => beq_eq_false_iff_ne.mpr fun heq => h (heq ▸ hx)
  rw [findFrom, List.drop_zero, List.findIdx?_append, absent]
  simp [List.findIdx?_cons]

theorem findFrom_of_notMem {c : Char} {text : List Char} (h : c ∉ text) :
    findFrom c text 0 = none := by
  cases hfind : findFrom c text 0 with
  | none => rfl
  | some i =>
    obtain ⟨-, split⟩ := findFrom_some hfind
    rw [List.drop_zero] at split
    exact absurd (split ▸ List.mem_append_right _ List.mem_cons_self) h

variable (now : Tm) (strSubscriberId : String) (st : RuleListState)

/-- What is read behind the tab. -/
def refreshOf (rest : List Char) : Option (SSQLRequestInfo SqlParam) :=
  if rest.length = 19 then
    (pcrfParseDateTime rest .empty).toOption.map fun time =>
      pcrfServerDbInsertRefqueue now (some "subscriber_id") strSubscriberId (some time) none
  else none

namespace RuleListState

theorem parseRuleRow_of_notMem {row : List Char} (h : '\t' ∉ row) :
    st.pcrfParseRuleRow now strSubscriberId row = st := by
  rw [RuleListState.pcrfParseRuleRow, findFrom_of_notMem h]

theorem parseRuleRow_append {front : List Char} (h : '\t' ∉ front) (rest : List Char) :
    st.pcrfParseRuleRow now strSubscriberId (front ++ '\t' :: rest) =
      if front = [] then st
      else
        { listRuleList := st.listRuleList ++ [String.ofList front]
          enqueued := st.enqueued ++ (refreshOf now strSubscriberId rest).toList } := by
  have length : (front ++ '\t' :: rest).length - (front.length + 1) = rest.length := by
    rw [List.length_append, List.length_cons]
    omega
  have behind : (front ++ '\t' :: rest).drop (front.length + 1) = rest := by
    rw [List.drop_length_add_append, List.drop_succ_cons, List.drop_zero]
  simp only [RuleListState.pcrfParseRuleRow, findFrom_append h, List.length_eq_zero_iff, length,
    behind, List.take_left]
  split
  next => rfl
  next =>
    unfold refreshOf
    split
    next =>
      unfold OtlValue.toOption OtlValue.isNull
      cases hnull : (pcrfParseDateTime rest .empty).null with
      | true => simp
      | false => simp
    next => simp

/-- The loop takes the lines one by one, and it ends. -/
theorem parseRuleRows_eq (text : List Char) {turns pos : Nat}
    (h : (text.drop pos).length < turns) :
    parseRuleRows now strSubscriberId text turns pos st =
      some (((text.drop pos).splitOn '\n').dropLast.foldl
        (fun st row => st.pcrfParseRuleRow now strSubscriberId row) st) := by
  induction turns generalizing pos st with
  | zero => exact absurd h (Nat.not_lt_zero _)
  | succ turns ih =>
    cases hfind : findFrom '\n' text pos with
    | none =>
      rw [List.splitOn_eq_singleton (findFrom_none hfind)]
      simp only [parseRuleRows, hfind]
      rfl
    | some stEndRow =>
      obtain ⟨free, split⟩ := findFrom_some hfind
      have lines : (text.drop pos).splitOn '\n' =
          (text.drop pos).take (stEndRow - pos) :: (text.drop (stEndRow + 1)).splitOn '\n' := by
        conv_lhs => rw [split]
        exact List.splitOn_append_cons_self_of_not_mem free _
      -- what is behind the line is shorter, so that the turns suffice
      have shorter : (text.drop (stEndRow + 1)).length < turns := by
        have whole := congrArg List.length split
        rw [List.length_append, List.length_cons] at whole
        omega
      rw [lines, List.dropLast_cons_of_ne_nil (List.splitOn_ne_nil _ _), List.foldl_cons,
        ← ih _ shorter]
      simp only [parseRuleRows, hfind]

theorem pcrfParseRuleList_eq (text : List Char) :
    st.pcrfParseRuleList now strSubscriberId text =
      some ((text.splitOn '\n').dropLast.foldl
        (fun st row => st.pcrfParseRuleRow now strSubscriberId row) st) :=
  parseRuleRows_eq now strSubscriberId st text
    (Nat.lt_succ_self text.length : (text.drop 0).length < text.length + 1)

end RuleListState

theorem pcrfParseRuleRow_append {front : List Char} (h : '\t' ∉ front) (rest : List Char) :
    pcrfParseRuleRow (front ++ '\t' :: rest) =
      if front = [] then none else some (String.ofList front) := by
  have name : (front ++ '\t' :: rest).takeWhile (· ≠ '\t') = front := by
    rw [List.takeWhile_append_of_pos]
    · simp
    · intro c hc
      have hne : c ≠ '\t' := fun heq => h (heq ▸ hc)
      exact decide_eq_true hne
  have shorter : front.length ≠ (front ++ '\t' :: rest).length := by
    rw [List.length_append, List.length_cons]
    omega
  simp only [pcrfParseRuleRow, name, shorter, false_or, List.length_eq_zero_iff]

theorem pcrfParseRuleRow_of_notMem {row : List Char} (h : '\t' ∉ row) :
    pcrfParseRuleRow row = none := by
  have whole : row.takeWhile (· ≠ '\t') = row := by
    rw [List.takeWhile_eq_self_iff]
    intro c hc
    have hne : c ≠ '\t' := fun heq => h (heq ▸ hc)
    exact decide_eq_true hne
  simp only [pcrfParseRuleRow, whole, true_or, if_true]

namespace RuleListState

/-- The name that a row gives does not depend on its time. -/
theorem listRuleList_parseRuleRow (row : List Char) :
    (st.pcrfParseRuleRow now strSubscriberId row).listRuleList =
      st.listRuleList ++ (Pcrf.pcrfParseRuleRow row).toList := by
  by_cases tab : '\t' ∈ row
  · obtain ⟨front, rest, rfl, free⟩ := List.eq_append_cons_of_mem tab
    rw [parseRuleRow_append now strSubscriberId st free, pcrfParseRuleRow_append free]
    split
    · exact (List.append_nil _).symm
    · rfl
  · rw [parseRuleRow_of_notMem now strSubscriberId st tab, pcrfParseRuleRow_of_notMem tab]
    exact (List.append_nil _).symm

theorem listRuleList_foldl (rows : List (List Char)) :
    (rows.foldl (fun st row => st.pcrfParseRuleRow now strSubscriberId row) st).listRuleList =
      st.listRuleList ++ rows.filterMap Pcrf.pcrfParseRuleRow := by
  induction rows generalizing st with
  | nil => exact (List.append_nil _).symm
  | cons row rows ih =>
    rw [List.foldl_cons, ih, listRuleList_parseRuleRow, List.append_assoc,
      List.filterMap_cons]
    cases Pcrf.pcrfParseRuleRow row <;> rfl

end RuleListState

/-- The names are those that the answer of the database is read for. -/
theorem isRuleName_of_mem {text : String} {name : String} (h : name ∈ pcrfParseRuleList text) :
    IsRuleName name := by
  obtain ⟨row, hrow, hname⟩ := List.mem_filterMap.mp h
  have line : '\n' ∉ row := notMem_of_mem_splitOn (List.dropLast_subset _ hrow)
  by_cases tab : '\t' ∈ row
  · obtain ⟨front, rest, rfl, free⟩ := List.eq_append_cons_of_mem tab
    rw [pcrfParseRuleRow_append free] at hname
    split at hname
    · cases hname
    next hne =>
      cases hname
      -- it ends at the first tab of a row that is within a line
      refine ⟨fun empty => hne (String.ofList_eq_empty_iff.mp empty), ?_, ?_⟩
      · rwa [String.toList_ofList]
      · rw [String.toList_ofList]
        exact fun hmem => line (List.mem_append_left _ hmem)
  · rw [pcrfParseRuleRow_of_notMem tab] at hname
    cases hname

theorem refreshOf_nil : refreshOf now strSubscriberId [] = none := if_neg (by decide)

theorem refreshOf_text (time : DateTime) :
    refreshOf now strSubscriberId time.text =
      some (pcrfServerDbInsertRefqueue now (some "subscriber_id") strSubscriberId
        (some time.otl) none) := by
  rw [refreshOf, if_pos time.length_text, time.pcrfParseDateTime_text]
  rfl

namespace WrittenRow

/-- A row that was written is read as it was. -/
theorem parseRuleRow_fields (row : WrittenRow) :
    st.pcrfParseRuleRow now strSubscriberId row.fields =
      { listRuleList := st.listRuleList ++ [row.name]
        enqueued := st.enqueued ++ (row.refresh now strSubscriberId).toList } := by
  obtain ⟨nonempty, tab, -⟩ := row.isName
  have written : row.name.toList ≠ [] := fun h => nonempty (String.toList_eq_nil_iff.mp h)
  rw [fields, RuleListState.parseRuleRow_append now strSubscriberId st tab, if_neg written,
    String.ofList_toList, refresh]
  cases row.time with
  | none => rw [Option.elim_none, refreshOf_nil, Option.map_none]
  | some time => rw [Option.elim_some, refreshOf_text, Option.map_some]

theorem newline_notMem_fields (row : WrittenRow) : '\n' ∉ row.fields := by
  obtain ⟨-, -, newline⟩ := row.isName
  rw [fields, List.mem_append, List.mem_cons, not_or, not_or]
  refine ⟨newline, by decide, ?_⟩
  cases row.time with
  | none => exact List.not_mem_nil
  | some time => exact time.newline_notMem_text

theorem foldl_fields (rows : List WrittenRow) :
    (rows.map fields).foldl (fun st row => st.pcrfParseRuleRow now strSubscriberId row) st =
      { listRuleList := st.listRuleList ++ rows.map (·.name)
        enqueued := st.enqueued ++ rows.filterMap (·.refresh now strSubscriberId) } := by
  induction rows generalizing st with
  | nil => simp
  | cons row rows ih =>
    rw [List.map_cons, List.foldl_cons, parseRuleRow_fields, ih, List.map_cons,
      List.filterMap_cons, List.append_assoc, List.append_assoc]
    cases row.refresh now strSubscriberId <;> rfl

end WrittenRow

/-- Rows that were written are read back one for one, and of no text is anything else than the
name of a rule taken. -/
theorem parsesRuleList :
    (∀ rows : List WrittenRow,
      st.pcrfParseRuleList now strSubscriberId (WrittenRow.text rows) = some
        { listRuleList := st.listRuleList ++ rows.map (·.name)
          enqueued := st.enqueued ++ rows.filterMap (·.refresh now strSubscriberId) }) ∧
      ∀ text : List Char, ∃ names st',
        st.pcrfParseRuleList now strSubscriberId text = some st' ∧
          st'.listRuleList = st.listRuleList ++ names ∧ ∀ name ∈ names, IsRuleName name := by
  constructor
  · intro rows
    -- the lines are the rows, with nothing behind the last of them
    have lines : (WrittenRow.text rows).splitOn '\n' = rows.map WrittenRow.fields ++ [[]] := by
      have free : ∀ line ∈ rows.map WrittenRow.fields, '\n' ∉ line :=
        List.forall_mem_map.mpr fun row _ => row.newline_notMem_fields
      rw [← splitOn_lines free, WrittenRow.text, List.flatMap_map]
    rw [RuleListState.pcrfParseRuleList_eq, lines, List.dropLast_concat, WrittenRow.foldl_fields]
  · intro text
    refine ⟨pcrfParseRuleList (String.ofList text), _,
      RuleListState.pcrfParseRuleList_eq now strSubscriberId st text, ?_,
      fun name => isRuleName_of_mem⟩
    rw [RuleListState.listRuleList_foldl, pcrfParseRuleList, String.toList_ofList]

end Rows

end Pcrf
