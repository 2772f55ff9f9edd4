import Pcrf.Lib.Decimal
import Pcrf.Lib.Fields
import Pcrf.RequestAvps

/-!
`pcrf_cdr_make_record`: the line that a session's start or its end is written with. The line is
read back when the fields have neither tabs nor newlines in them and the address is not the one
that stands for none.
-/

namespace Pcrf

open Lib

/-! ### The record -/

/-- The milliseconds of what `gettimeofday` gives. -/
def Timeval.stamp (soTV : Timeval) : UInt64 :=
  .ofInt (soTV.tvSec * 1000 + soTV.tvUsec.tdiv 1000)

/-- `snprintf` to `mcString[32]`, and what is appended of it. -/
def appendNumber (strData : String) (number : Nat) : String :=
  let mcString := toString number
  if 0 < mcString.length ∧ mcString.length < 32 then strData ++ mcString else strData

/-- `p_strData += co.v`, if there is a value. -/
def appendValue (strData : String) (co : OtlValue String) : String :=
  if co.isNull then strData else strData ++ co.v

/-- `none` stands for a `gettimeofday` that fails. -/
def pcrfCdrMakeRecord (soTV : Option Timeval) (soReqData : ExtractedData) : String :=
  let sess := soReqData.sess
  let common (type : String) : String :=
    let strData := type ++ sess.strSessionId ++ "\t"
    let strData := soTV.elim strData fun soTV => appendNumber strData soTV.stamp.toNat
    appendValue (strData ++ "\t") sess.soSubscriptionData.coEndUserIMSI
  match soReqData.req.iCCRequestType with
  | .initialRequest =>
    let strData := common "1\t" ++ "\t"
    -- the number that no address was stored in stands for none
    let strData := if sess.ui32FramedIPAddress ≠ 0xFFFFFFFF then
      appendNumber strData sess.ui32FramedIPAddress.toNat else strData
    let strData := appendValue (strData ++ "\t") sess.coIMEI
    appendValue (strData ++ "\t") sess.coCalledStationId ++ "\n"
  | .terminationRequest => common "3\t" ++ "\n"
  | _ => ""

/-! ### What it is to say -/

/-- A request of which a record is made: the start or the end of a session, with an address or
without one. -/
def ExtractedData.forCdr (soReqData : ExtractedData) (start : Bool) (address : Option UInt32) :
    ExtractedData :=
  { sess := { soReqData.sess with ui32FramedIPAddress := address.getD 0xFFFFFFFF }
    req :=
      { soReqData.req with
        iCCRequestType := if start then .initialRequest else .terminationRequest } }

/-- The values of the columns, as far as there are any. -/
def cdrValues (soTV : Option Timeval) (soReqData : ExtractedData) (start : Bool)
    (address : Option UInt32) : List (Option String) :=
  let sess := soReqData.sess
  let common := [some sess.strSessionId, soTV.map fun soTV => toString soTV.stamp.toNat,
    sess.soSubscriptionData.coEndUserIMSI.toOption]
  if start then
    some "1" :: common ++ [address.map fun address => toString address.toNat,
      sess.coIMEI.toOption, sess.coCalledStationId.toOption]
  else some "3" :: common

/-- One line, with the only newline at its end, whose columns are the values. -/
def IsLineOf (values : List (Option String)) (record : String) : Prop :=
  ∃ line, record.toList = line ++ ['\n'] ∧ '\n' ∉ line ∧
    line.splitOn '\t' = values.map fun value => (value.getD "").toList

/-- A text that stays within its column. -/
def StaysInColumn (text : String) : Prop := '\t' ∉ text.toList ∧ '\n' ∉ text.toList

/-- What the request gives as text stays in the columns, and an address is not 255.255.255.255. -/
structure FitsColumns (soReqData : ExtractedData) (start : Bool) (address : Option UInt32) :
    Prop where
  sessionId : StaysInColumn soReqData.sess.strSessionId
  imsi : ∀ imsi, soReqData.sess.soSubscriptionData.coEndUserIMSI.toOption = some imsi →
    StaysInColumn imsi
  imei : start = true → ∀ imei, soReqData.sess.coIMEI.toOption = some imei → StaysInColumn imei
  apn : start = true → ∀ apn, soReqData.sess.coCalledStationId.toOption = some apn →
    StaysInColumn apn
  address : start = true → address ≠ some 0xFFFFFFFF

/-! ### The columns -/

theorem appendNumber_eq (strData : String) {number : Nat} (h : number < 2 ^ 64) :
    appendNumber strData number = strData ++ toString number := by
  have hpos : 0 < (toString number).length := by
    have hne := (isDecimal_toString number).1
    exact Nat.pos_of_ne_zero fun hzero => hne (String.length_eq_zero_iff.mp hzero)
  have hle : (toString number).length ≤ 20 := length_toString_le (by decide) (by omega)
  unfold appendNumber
  rw [if_pos ⟨hpos, by omega⟩]

theorem appendValue_eq (strData : String) (co : OtlValue String) :
    appendValue strData co = strData ++ co.toOption.getD "" := by
  unfold appendValue OtlValue.toOption OtlValue.isNull
  cases co.null
  · rfl
  · simp

/-- The address that is written. -/
def shownAddress (address : Option UInt32) : Option UInt32 :=
  if address = some 0xFFFFFFFF then none else address

/-- The columns as characters. -/
def columns (values : List (Option String)) : List (List Char) :=
  values.map fun value => (value.getD "").toList

/-- The record is the columns, with tabs between them. -/
theorem toList_record (soTV : Option Timeval) (soReqData : ExtractedData) (start : Bool)
    (address : Option UInt32) :
    (pcrfCdrMakeRecord soTV (soReqData.forCdr start address)).toList =
      ['\t'].intercalate (columns (cdrValues soTV soReqData start (shownAddress address))) ++
        ['\n'] := by
  have hstamp (strData : String) :
      (soTV.elim strData fun soTV => appendNumber strData soTV.stamp.toNat) =
        strData ++ (soTV.map fun soTV => toString soTV.stamp.toNat).getD "" := by
    cases soTV with
    | none => simp
    | some soTV => exact appendNumber_eq strData soTV.stamp.toNat_lt
  have haddress (strData : String) :
      (if address.getD 0xFFFFFFFF ≠ 0xFFFFFFFF then
        appendNumber strData (address.getD 0xFFFFFFFF).toNat else strData) =
        strData ++ ((shownAddress address).map fun address => toString address.toNat).getD "" := by
    cases address with
    | none => simp [shownAddress]
    | some address =>
      by_cases hnone : address = 0xFFFFFFFF
      · have hshown : shownAddress (some address) = none := if_pos (by rw [hnone])
        rw [hshown, hnone]
        simp
      · have hshown : shownAddress (some address) = some address := if_neg (by simpa using hnone)
        have hlt : address.toNat < 2 ^ 64 := address.toNat_lt.trans (by decide)
        rw [hshown, Option.getD_some, if_pos hnone, appendNumber_eq strData hlt]
        rfl
  -- a value that is absent leaves its column empty, so that each kind has its count of columns
  cases start with
  | true =>
    simp only [pcrfCdrMakeRecord, ExtractedData.forCdr, if_true, hstamp, haddress, appendValue_eq,
      cdrValues, columns]
    simp
  | false =>
    simp only [pcrfCdrMakeRecord, ExtractedData.forCdr, Bool.false_eq_true, if_false, hstamp,
      appendValue_eq, cdrValues, columns]
    simp

theorem columns_ne_nil (soTV : Option Timeval) (soReqData : ExtractedData) (start : Bool)
    (address : Option UInt32) : columns (cdrValues soTV soReqData start address) ≠ [] := by
  cases start <;> simp [columns, cdrValues]

/-- The line is one of the values exactly when the columns have no newline and are read back. -/
theorem isLineOf_record_iff (soTV : Option Timeval) (soReqData : ExtractedData) (start : Bool)
    (address : Option UInt32) (values : List (Option String)) :
    IsLineOf values (pcrfCdrMakeRecord soTV (soReqData.forCdr start address)) ↔
      (∀ column ∈ columns (cdrValues soTV soReqData start (shownAddress address)),
        '\n' ∉ column) ∧
      (['\t'].intercalate (columns (cdrValues soTV soReqData start
        (shownAddress address)))).splitOn '\t' = columns values := by
  have hnewline := @mem_intercalate_iff _ '\t' '\n' (by decide)
    (columns (cdrValues soTV soReqData start (shownAddress address)))
  unfold IsLineOf
  rw [toList_record]
  constructor
  · rintro ⟨line, heq, hline, hsplit⟩
    obtain rfl := List.append_cancel_right heq
    rw [hnewline] at hline
    exact ⟨fun column hcolumn hmem => hline ⟨column, hcolumn, hmem⟩, hsplit⟩
  · rintro ⟨hline, hsplit⟩
    refine ⟨_, rfl, ?_, hsplit⟩
    rw [hnewline]
    rintro ⟨column, hcolumn, hmem⟩
    exact hline column hcolumn hmem

/-! ### When it is read back -/

section

variable {soTV : Option Timeval} {soReqData : ExtractedData} {start : Bool}
  {address : Option UInt32}

theorem staysInColumn_empty : StaysInColumn "" := by simp [StaysInColumn]

theorem staysInColumn_number (number : Nat) : StaysInColumn (toString number) := by
  constructor
  · intro hmem
    exact absurd ((isDecimal_toString number).2 _ hmem) (by decide)
  · intro hmem
    exact absurd ((isDecimal_toString number).2 _ hmem) (by decide)

/-- Numbers stay in their columns, so that only the texts of the request matter. -/
theorem fitsColumns_iff : FitsColumns soReqData start address ↔
    (∀ value ∈ cdrValues soTV soReqData start address, StaysInColumn (value.getD "")) ∧
      (start = true → address ≠ some 0xFFFFFFFF) := by
  have hgetD (value : Option String) :
      StaysInColumn (value.getD "") ↔ ∀ text, value = some text → StaysInColumn text := by
    cases value with
    | none => simp [staysInColumn_empty]
    | some text => simp
  have hstamp : StaysInColumn ((soTV.map fun soTV => toString soTV.stamp.toNat).getD "") := by
    cases soTV with
    | none => exact staysInColumn_empty
    | some soTV => exact staysInColumn_number _
  have haddress : StaysInColumn ((address.map fun address => toString address.toNat).getD "") := by
    cases address with
    | none => exact staysInColumn_empty
    | some address => exact staysInColumn_number _
  have hone : StaysInColumn "1" := staysInColumn_number 1
  have hthree : StaysInColumn "3" := staysInColumn_number 3
  cases start with
  | true =>
    simp only [cdrValues, if_true, List.cons_append, List.nil_append, List.forall_mem_cons,
      List.not_mem_nil, false_implies, implies_true, and_true, Option.getD_some, hone, hstamp,
      haddress, true_and, forall_const]
    simp only [hgetD]
    constructor
    · intro h
      exact ⟨⟨h.sessionId, h.imsi, h.imei rfl, h.apn rfl⟩, h.address rfl⟩
    · rintro ⟨⟨hsession, himsi, himei, hapn⟩, hshown⟩
      exact ⟨hsession, himsi, fun _ => himei, fun _ => hapn, fun _ => hshown⟩
  | false =>
    simp only [cdrValues, Bool.false_eq_true, if_false, List.forall_mem_cons, List.not_mem_nil,
      false_implies, implies_true, and_true, Option.getD_some, hthree, hstamp, true_and]
    simp only [hgetD]
    constructor
    · intro h
      exact ⟨h.sessionId, h.imsi⟩
    · rintro ⟨hsession, himsi⟩
      exact ⟨hsession, himsi, by simp, by simp, by simp⟩

/-- An address that is shown is written as it is. -/
theorem cdrValues_shown (h : start = true → address ≠ some 0xFFFFFFFF) :
    cdrValues soTV soReqData start (shownAddress address) =
      cdrValues soTV soReqData start address := by
  cases start with
  | true => rw [shownAddress, if_neg (h rfl)]
  | false => rfl

/-- Where the columns are those of the values, the address was shown. -/
theorem shown_of_columns_eq
    (h : columns (cdrValues soTV soReqData start (shownAddress address)) =
      columns (cdrValues soTV soReqData start address)) :
    start = true → address ≠ some 0xFFFFFFFF := by
  rintro rfl rfl
  have hshown : shownAddress (some 0xFFFFFFFF) = none := if_pos rfl
  rw [hshown] at h
  -- the address is the fifth column
  have hcolumn := congrArg (·[4]?) h
  simp [columns, cdrValues] at hcolumn

/-- What is written is a value, or nothing for an address. -/
theorem mem_columns_shown {column : List Char}
    (h : column ∈ columns (cdrValues soTV soReqData start (shownAddress address))) :
    column = [] ∨ column ∈ columns (cdrValues soTV soReqData start address) := by
  by_cases haddress : address = some 0xFFFFFFFF
  · rw [shownAddress, if_pos haddress] at h
    cases start with
    | true =>
      simp only [columns, cdrValues, if_true, List.map_cons, List.map_append, List.mem_append,
        List.mem_cons] at h ⊢
      simp only [Option.map_none, Option.getD_none, String.toList_empty] at h
      tauto
    | false => exact .inr h
  · rw [shownAddress, if_neg haddress] at h
    exact .inr h

/-- The record is one line with just the columns for the values exactly when no text of the
request has a tab or a newline, and the address of a new session is not 255.255.255.255. -/
theorem isLineOf_iff (soTV : Option Timeval) (soReqData : ExtractedData) (start : Bool)
    (address : Option UInt32) :
    IsLineOf (cdrValues soTV soReqData start address)
        (pcrfCdrMakeRecord soTV (soReqData.forCdr start address)) ↔
      FitsColumns soReqData start address := by
  rw [isLineOf_record_iff, @fitsColumns_iff soTV]
  constructor
  · rintro ⟨hline, hsplit⟩
    have htab : ∀ column ∈ columns (cdrValues soTV soReqData start address), '\t' ∉ column := by
      intro column hcolumn
      rw [← hsplit] at hcolumn
      exact notMem_of_mem_splitOn hcolumn
    -- the columns that were written have no tabs either, so they are the values
    have hwritten : ∀ column ∈ columns (cdrValues soTV soReqData start (shownAddress address)),
        '\t' ∉ column := by
      intro column hcolumn
      rcases mem_columns_shown hcolumn with rfl | hcolumn
      · exact List.not_mem_nil
      · exact htab column hcolumn
    have hread := List.splitOn_intercalate '\t' hwritten (columns_ne_nil soTV soReqData start _)
    have hsame := hread.symm.trans hsplit
    refine ⟨fun value hvalue => ?_, shown_of_columns_eq hsame⟩
    have hcolumn := List.mem_map_of_mem (f := fun value => (value.getD "").toList) hvalue
    exact ⟨htab _ hcolumn, hline _ (hsame ▸ hcolumn)⟩
  · rintro ⟨hvalues, haddress⟩
    have hclean : ∀ column ∈ columns (cdrValues soTV soReqData start address),
        '\t' ∉ column ∧ '\n' ∉ column := by
      intro column hcolumn
      obtain ⟨value, hvalue, rfl⟩ := List.mem_map.mp hcolumn
      exact hvalues value hvalue
    rw [cdrValues_shown haddress]
    refine ⟨fun column hcolumn => (hclean column hcolumn).2, ?_⟩
    exact List.splitOn_intercalate '\t' (fun column hcolumn => (hclean column hcolumn).1)
      (columns_ne_nil soTV soReqData start address)

end

/-- A session from 255.255.255.255. -/
theorem not_isLineOf_broadcast : ¬ ∀ soTV soReqData start address,
    IsLineOf (cdrValues soTV soReqData start address)
      (pcrfCdrMakeRecord soTV (soReqData.forCdr start address)) := by
  intro line
  obtain ⟨line, heq, -, hsplit⟩ := line none {} true (some 0xFFFFFFFF)
  have hrecord : (pcrfCdrMakeRecord none (({} : ExtractedData).forCdr true
      (some 0xFFFFFFFF))).toList = "1\t\t\t\t\t\t".toList ++ ['\n'] := by decide
  rw [hrecord] at heq
  obtain rfl := List.append_cancel_right heq
  exact absurd hsplit (by decide)

end Pcrf
