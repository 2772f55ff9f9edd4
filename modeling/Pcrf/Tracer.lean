import Mathlib.Algebra.Order.BigOperators.Group.List
import Pcrf.DefaultRules
import Pcrf.IpcRequest
import Pcrf.Lib.LastWrite

/-!
Tracing on conditions: the sets of `pcrf_tracer.cpp`, the requests of an administrator that set
and reset conditions, and the check that a message makes of its session.
-/

namespace Pcrf

open Lib

/-! ### The sets -/

/-- `ETracerConditionType` with the value that is passed for it. -/
inductive TracerCondition where
  | imsi (value : String)
  | e164 (value : String)
  | applicationId (value : UInt32)
  | apn (value : String)
  deriving Repr, DecidableEq

structure TracerState where
  usetSessionId : List String := []
  usetApplicationId : List UInt32 := []
  usetEndUserImsi : List String := []
  usetEndUserE164 : List String := []
  usetAPN : List String := []
  deriving Repr, DecidableEq

/-- `std::unordered_set::insert` -/
def insertIn {α : Type} [DecidableEq α] (set : List α) (value : α) : List α :=
  if value ∈ set then set else value :: set

/-- `std::unordered_set::erase` -/
def eraseIn {α : Type} [DecidableEq α] (set : List α) (value : α) : List α :=
  set.filter (· ≠ value)

def pcrfTracerSetCondition (st : TracerState) : TracerCondition → TracerState
  | .imsi value => { st with usetEndUserImsi := insertIn st.usetEndUserImsi value }
  | .e164 value => { st with usetEndUserE164 := insertIn st.usetEndUserE164 value }
  | .applicationId value => { st with usetApplicationId := insertIn st.usetApplicationId value }
  | .apn value => { st with usetAPN := insertIn st.usetAPN value }

/-- An APN is inserted here too. -/
def pcrfTracerResetCondition (st : TracerState) : TracerCondition → TracerState
  | .imsi value => { st with usetEndUserImsi := eraseIn st.usetEndUserImsi value }
  | .e164 value => { st with usetEndUserE164 := eraseIn st.usetEndUserE164 value }
  | .applicationId value => { st with usetApplicationId := eraseIn st.usetApplicationId value }
  | .apn value => { st with usetAPN := insertIn st.usetAPN value }

/-- `pcrf_tracer_set_session_id`, whose argument is not null here. -/
def pcrfTracerSetSessionId (st : TracerState) (sessionId : String) : TracerState :=
  { st with usetSessionId := insertIn st.usetSessionId sessionId }

def pcrfTracerResetSessionId (st : TracerState) (sessionId : String) : TracerState :=
  { st with usetSessionId := eraseIn st.usetSessionId sessionId }

/-- What a message tells of its session. -/
structure TracedSession where
  strSessionId : String
  strIMSI : String := ""
  strE164 : String := ""
  strAPN : String := ""
  ui32ApplicationId : UInt32 := 0
  deriving Repr, DecidableEq

/-- The session is traced from the first of its values that is found on. -/
def pcrfTracerCheckSessionByCondition (st : TracerState) (session : TracedSession) :
    TracerState :=
  if session.strSessionId.length = 0 then st
  else if session.strIMSI ∈ st.usetEndUserImsi ∨ session.strE164 ∈ st.usetEndUserE164 ∨
      session.strAPN ∈ st.usetAPN ∨
      session.ui32ApplicationId ≠ 0 ∧ session.ui32ApplicationId ∈ st.usetApplicationId then
    pcrfTracerSetSessionId st session.strSessionId
  else st

/-! ### The requests -/

/-- A value that a request has, as a string of C. -/
def OtlValue.cString (o : OtlValue String) : Option String := o.toOption.map cStr

/-- Do something with a value, when there is one. -/
def withValue {α : Type} (value : Option α) (act : TracerState → α → TracerState)
    (st : TracerState) : TracerState :=
  match value with
  | some v => act st v
  | none => st

/-- 0 is no application. -/
def IpcRequest.application (req : IpcRequest) : Option UInt32 :=
  if req.ui32ApplicationId ≠ 0 then some req.ui32ApplicationId else none

def IpcRequest.tracedSessionId (req : IpcRequest) : Option String :=
  if req.strSessionId.length ≠ 0 then some (cStr req.strSessionId) else none

def ipcTracerSet (st : TracerState) (req : IpcRequest) : TracerState :=
  let st := withValue req.psoCache.coEndUserIMSI.cString
    (fun st v => pcrfTracerSetCondition st (.imsi v)) st
  let st := withValue req.psoCache.coCalledStationId.cString
    (fun st v => pcrfTracerSetCondition st (.apn v)) st
  let st := withValue req.psoCache.coEndUserE164.cString
    (fun st v => pcrfTracerSetCondition st (.e164 v)) st
  let st := withValue req.application
    (fun st v => pcrfTracerSetCondition st (.applicationId v)) st
  withValue req.tracedSessionId pcrfTracerSetSessionId st

/-- The E164 number is reset as an IMSI. -/
def ipcTracerReset (st : TracerState) (req : IpcRequest) : TracerState :=
  let st := withValue req.psoCache.coEndUserIMSI.cString
    (fun st v => pcrfTracerResetCondition st (.imsi v)) st
  let st := withValue req.psoCache.coCalledStationId.cString
    (fun st v => pcrfTracerResetCondition st (.apn v)) st
  let st := withValue req.psoCache.coEndUserE164.cString
    (fun st v => pcrfTracerResetCondition st (.imsi v)) st
  let st := withValue req.application
    (fun st v => pcrfTracerResetCondition st (.applicationId v)) st
  withValue req.tracedSessionId pcrfTracerResetSessionId st

/-- The command `ADMIN_REQ`. -/
def ipcAdminCommand (st : TracerState) (req : IpcRequest) : TracerState :=
  if req.strAdmCmd = "tracer.set" then ipcTracerSet st req
  else if req.strAdmCmd = "tracer.reset" then ipcTracerReset st req
  else st

/-- `pcrf_ipc_process_request` for a packet with this command, whose attributes were parsed. -/
def pcrfIpcProcessAdminRequest (codes : IpcCodes) (fresh : Nat → Nat → Char) (st : TracerState)
    (attrs : List SPSReqAttr) : Except IpcFault TracerState :=
  (ipcReadAttrs codes fresh attrs).map (ipcAdminCommand st)

/-- Packets that could be read leave what the requests read from them leave. -/
theorem foldlM_processAdminRequest {codes : IpcCodes} {fresh : Nat → Nat → Char}
    {packets : List (List SPSReqAttr)} {reqs : List IpcRequest}
    (read : List.Forall₂ (fun attrs req => ipcReadAttrs codes fresh attrs = .ok req) packets reqs)
    (st : TracerState) :
    packets.foldlM (pcrfIpcProcessAdminRequest codes fresh) st =
      .ok (reqs.foldl ipcAdminCommand st) := by
  induction read generalizing st with
  | nil => rfl
  | cons first _ ih =>
    rw [List.foldlM_cons, List.foldl_cons, ← ih]
    simp only [pcrfIpcProcessAdminRequest, first]
    rfl

/-! ### What is in force -/

def TracerCondition.Matches (session : TracedSession) : TracerCondition → Prop
  | imsi value => session.strIMSI = value
  | e164 value => session.strE164 = value
  | applicationId value => session.ui32ApplicationId = value
  | apn value => session.strAPN = value

/-- Every session that the condition fits is traced once one of its messages is checked. -/
def TracerState.InForce (st : TracerState) (condition : TracerCondition) : Prop :=
  ∀ session : TracedSession, session.strSessionId ≠ "" → condition.Matches session →
    session.strSessionId ∈ (pcrfTracerCheckSessionByCondition st session).usetSessionId

/-- The request names the value for this kind of condition. -/
def IpcRequest.names (req : IpcRequest) : TracerCondition → Bool
  | .imsi value => req.psoCache.coEndUserIMSI.cString == some value
  | .e164 value => req.psoCache.coEndUserE164.cString == some value
  | .applicationId value => req.application == some value
  | .apn value => req.psoCache.coCalledStationId.cString == some value

/-- What a request is to make of a condition: set, reset, or nothing. -/
def IpcRequest.orders (req : IpcRequest) (condition : TracerCondition) : Option Bool :=
  if req.names condition then
    if req.strAdmCmd = "tracer.set" then some true
    else if req.strAdmCmd = "tracer.reset" then some false
    else none
  else none

/-- After the requests a condition is in force exactly when the last of them that names it was
to set it. -/
def ObeysLastOrder (reqs : List IpcRequest) : Prop :=
  ∀ condition, (reqs.foldl ipcAdminCommand {}).InForce condition ↔
    lastWrite (·.orders condition) reqs = some true

/-- The orders to reset that are carried out wrongly do not matter. -/
structure ResetsSpared (reqs : List IpcRequest) : Prop where
  /-- No access point is reset for good. -/
  apn : ∀ value, lastWrite (·.orders (.apn value)) reqs ≠ some false
  /-- Nor is a number that had been set. -/
  e164 : ∀ value, lastWrite (·.orders (.e164 value)) reqs = some false →
    ∀ req ∈ reqs, req.orders (.e164 value) ≠ some true
  /-- No number is reset that is also an IMSI in force. -/
  imsi : ∀ value front req rest, reqs = front ++ req :: rest →
    req.orders (.imsi value) = some true →
    (∀ later ∈ rest, later.orders (.imsi value) = none) →
    ∀ later ∈ rest, later.orders (.e164 value) ≠ some false

/-! ### What a request does to a condition -/

/-- The value is in the set of its kind. -/
def TracerState.Holds (st : TracerState) : TracerCondition → Prop
  | .imsi value => value ∈ st.usetEndUserImsi
  | .e164 value => value ∈ st.usetEndUserE164
  | .applicationId value => value ∈ st.usetApplicationId
  | .apn value => value ∈ st.usetAPN

/-- What a request makes of a condition. -/
def IpcRequest.does (req : IpcRequest) (condition : TracerCondition) : Option Bool :=
  if req.strAdmCmd = "tracer.set" then if req.names condition then some true else none
  else if req.strAdmCmd = "tracer.reset" then
    match condition with
    | .imsi value =>
      if req.names (.imsi value) || req.names (.e164 value) then some false else none
    | .e164 _ => none
    | .applicationId _ => if req.names condition then some false else none
    | .apn _ => if req.names condition then some true else none
  else none

section Holds

variable {st : TracerState}

theorem mem_insertIn {α : Type} [DecidableEq α] {set : List α} {value v : α} :
    v ∈ insertIn set value ↔ v = value ∨ v ∈ set := by
  unfold insertIn
  split
  next h =>
    constructor
    · exact .inr
    · rintro (rfl | hv)
      · exact h
      · exact hv
  next => exact List.mem_cons

theorem mem_eraseIn {α : Type} [DecidableEq α] {set : List α} {value v : α} :
    v ∈ eraseIn set value ↔ v ≠ value ∧ v ∈ set := by
  simp [eraseIn, and_comm]

theorem holds_setCondition (st : TracerState) (set condition : TracerCondition) :
    (pcrfTracerSetCondition st set).Holds condition ↔
      condition = set ∨ st.Holds condition := by
  cases set <;> cases condition <;>
    simp [pcrfTracerSetCondition, TracerState.Holds, mem_insertIn]

/-- An access point that is reset is set. -/
theorem holds_resetCondition_apn (st : TracerState) (value : String)
    (condition : TracerCondition) :
    (pcrfTracerResetCondition st (.apn value)).Holds condition ↔
      condition = .apn value ∨ st.Holds condition := by
  cases condition <;> simp [pcrfTracerResetCondition, TracerState.Holds, mem_insertIn]

theorem holds_resetCondition (st : TracerState) {reset : TracerCondition}
    (h : ∀ value, reset ≠ .apn value) (condition : TracerCondition) :
    (pcrfTracerResetCondition st reset).Holds condition ↔
      condition ≠ reset ∧ st.Holds condition := by
  cases reset with
  | apn value => exact absurd rfl (h value)
  | _ => cases condition <;> simp [pcrfTracerResetCondition, TracerState.Holds, mem_eraseIn]

section

variable {α : Type}

theorem holds_withSet (st : TracerState) (value : Option α) (kind : α → TracerCondition)
    (condition : TracerCondition) :
    (withValue value (fun st v => pcrfTracerSetCondition st (kind v)) st).Holds condition ↔
      (∃ v, value = some v ∧ condition = kind v) ∨ st.Holds condition := by
  cases value with
  | none => simp [withValue]
  | some v => simpa [withValue] using holds_setCondition st (kind v) condition

theorem holds_withReset (st : TracerState) (value : Option α) {kind : α → TracerCondition}
    (h : ∀ v value, kind v ≠ .apn value) (condition : TracerCondition) :
    (withValue value (fun st v => pcrfTracerResetCondition st (kind v)) st).Holds condition ↔
      (∀ v, value = some v → condition ≠ kind v) ∧ st.Holds condition := by
  cases value with
  | none => simp [withValue]
  | some v => simpa [withValue] using holds_resetCondition st (h v) condition

theorem holds_withReset_apn (st : TracerState) (value : Option String)
    (condition : TracerCondition) :
    (withValue value (fun st v => pcrfTracerResetCondition st (.apn v)) st).Holds condition ↔
      (∃ v, value = some v ∧ condition = .apn v) ∨ st.Holds condition := by
  cases value with
  | none => simp [withValue]
  | some v => simpa [withValue] using holds_resetCondition_apn st v condition

/-- The sessions that are named one by one are in no set of conditions. -/
theorem holds_withSessionId (st : TracerState) (value : Option String)
    (condition : TracerCondition) :
    (withValue value pcrfTracerSetSessionId st).Holds condition = st.Holds condition ∧
      (withValue value pcrfTracerResetSessionId st).Holds condition = st.Holds condition := by
  cases value <;> cases condition <;> exact ⟨rfl, rfl⟩

end

theorem holds_ipcTracerSet (st : TracerState) (req : IpcRequest) (condition : TracerCondition) :
    (ipcTracerSet st req).Holds condition ↔
      req.names condition = true ∨ st.Holds condition := by
  simp only [ipcTracerSet, (holds_withSessionId _ _ _).1, holds_withSet]
  cases condition <;> simp [IpcRequest.names]

theorem forall_eq_some_imp_ne {α : Type} {value : Option α} {x : α} :
    (∀ v, value = some v → ¬ x = v) ↔ ¬ value = some x := by
  constructor
  · intro h hx
    exact h x hx rfl
  · rintro h v hv rfl
    exact h hv

theorem holds_ipcTracerReset (st : TracerState) (req : IpcRequest) (condition : TracerCondition) :
    (ipcTracerReset st req).Holds condition ↔
      match condition with
      | .imsi value =>
        ¬ (req.names (.imsi value) = true ∨ req.names (.e164 value) = true) ∧
          st.Holds condition
      | .e164 _ => st.Holds condition
      | .applicationId _ => req.names condition = false ∧ st.Holds condition
      | .apn _ => req.names condition = true ∨ st.Holds condition := by
  simp only [ipcTracerReset, (holds_withSessionId _ _ _).2]
  rw [holds_withReset _ _ (by simp), holds_withReset _ _ (by simp), holds_withReset_apn,
    holds_withReset _ _ (by simp)]
  cases condition with
  | imsi value =>
    simp only [IpcRequest.names, TracerCondition.imsi.injEq, ne_eq, forall_eq_some_imp_ne,
      beq_iff_eq]
    simp [and_left_comm, and_assoc]
  | e164 value => simp
  | applicationId value => simp [IpcRequest.names, forall_eq_some_imp_ne]
  | apn value => simp [IpcRequest.names]

theorem holds_ipcAdminCommand (st : TracerState) (req : IpcRequest)
    (condition : TracerCondition) :
    (ipcAdminCommand st req).Holds condition ↔
      req.does condition = some true ∨ req.does condition = none ∧ st.Holds condition := by
  unfold ipcAdminCommand IpcRequest.does
  split
  next =>
    rw [holds_ipcTracerSet]
    cases req.names condition <;> simp
  next =>
    split
    next =>
      rw [holds_ipcTracerReset]
      cases condition with
      | imsi value =>
        cases req.names (.imsi value) <;> cases req.names (.e164 value) <;> simp
      | e164 value => simp
      | applicationId value => cases req.names (.applicationId value) <;> simp
      | apn value => cases req.names (.apn value) <;> simp
    next => simp

end Holds

/-! ### What is in force, by the sets -/

theorem exists_string_notMem (strings : List String) : ∃ s : String, s ≠ "" ∧ s ∉ strings := by
  -- a string that is longer than all of them together
  let length := (strings.map String.length).sum
  refine ⟨String.ofList (List.replicate (length + 1) 'x'), ?_, ?_⟩
  · intro h
    have chars := congrArg String.length h
    simp at chars
  · intro hmem
    have within := List.le_sum_of_mem (List.mem_map_of_mem (f := String.length) hmem)
    simp [length] at within

/-- A session is traced when it was, or when one of its values is in the sets. -/
theorem mem_checkSession {st : TracerState} {session : TracedSession}
    (hId : session.strSessionId ≠ "") :
    session.strSessionId ∈ (pcrfTracerCheckSessionByCondition st session).usetSessionId ↔
      session.strSessionId ∈ st.usetSessionId ∨
        st.Holds (.imsi session.strIMSI) ∨ st.Holds (.e164 session.strE164) ∨
        st.Holds (.apn session.strAPN) ∨
        session.ui32ApplicationId ≠ 0 ∧ st.Holds (.applicationId session.ui32ApplicationId) := by
  have named : ¬ session.strSessionId.length = 0 := by simpa using hId
  simp only [pcrfTracerCheckSessionByCondition, if_neg named, TracerState.Holds]
  split
  next h => simp [pcrfTracerSetSessionId, mem_insertIn, h]
  next h => simp [h]

/-- The application 0 is never looked for. -/
theorem inForce_iff (st : TracerState) (condition : TracerCondition) :
    st.InForce condition ↔ st.Holds condition ∧ condition ≠ .applicationId 0 := by
  obtain ⟨id, hId, newId⟩ := exists_string_notMem st.usetSessionId
  obtain ⟨imsi, -, newImsi⟩ := exists_string_notMem st.usetEndUserImsi
  obtain ⟨e164, -, newE164⟩ := exists_string_notMem st.usetEndUserE164
  obtain ⟨apn, -, newApn⟩ := exists_string_notMem st.usetAPN
  constructor
  · intro inForce
    -- a session that nothing but the condition fits
    cases condition with
    | imsi value =>
      have traced := (mem_checkSession hId).mp (inForce ⟨id, value, e164, apn, 0⟩ hId rfl)
      simpa [TracerState.Holds, newId, newE164, newApn] using traced
    | e164 value =>
      have traced := (mem_checkSession hId).mp (inForce ⟨id, imsi, value, apn, 0⟩ hId rfl)
      simpa [TracerState.Holds, newId, newImsi, newApn] using traced
    | apn value =>
      have traced := (mem_checkSession hId).mp (inForce ⟨id, imsi, e164, value, 0⟩ hId rfl)
      simpa [TracerState.Holds, newId, newImsi, newE164] using traced
    | applicationId value =>
      have traced := (mem_checkSession hId).mp (inForce ⟨id, imsi, e164, apn, value⟩ hId rfl)
      simpa [TracerState.Holds, newId, newImsi, newE164, newApn, and_comm] using traced
  · rintro ⟨holds, notZero⟩ session hId fits
    rw [mem_checkSession hId]
    cases condition with
    | imsi value =>
      obtain rfl : session.strIMSI = value := fits
      exact .inr (.inl holds)
    | e164 value =>
      obtain rfl : session.strE164 = value := fits
      exact .inr (.inr (.inl holds))
    | apn value =>
      obtain rfl : session.strAPN = value := fits
      exact .inr (.inr (.inr (.inl holds)))
    | applicationId value =>
      obtain rfl : session.ui32ApplicationId = value := fits
      exact .inr (.inr (.inr (.inr ⟨fun zero => notZero (zero ▸ rfl), holds⟩)))

/-! ### Orders and what becomes of them -/

section Orders

variable {req : IpcRequest} {reqs : List IpcRequest}

theorem does_applicationId (req : IpcRequest) (value : UInt32) :
    req.does (.applicationId value) = req.orders (.applicationId value) := by
  unfold IpcRequest.does IpcRequest.orders
  cases req.names (.applicationId value) <;> simp

/-- Every order about an access point sets it. -/
theorem does_apn (req : IpcRequest) (value : String) :
    req.does (.apn value) = (req.orders (.apn value)).map fun _ => true := by
  unfold IpcRequest.does IpcRequest.orders
  cases req.names (.apn value) with
  | true =>
    by_cases hset : req.strAdmCmd = "tracer.set"
    · simp [hset]
    · by_cases hreset : req.strAdmCmd = "tracer.reset" <;> simp [hset, hreset]
  | false => simp

/-- An order to reset a number does nothing to it. -/
theorem does_e164 (req : IpcRequest) (value : String) :
    req.does (.e164 value) =
      if req.orders (.e164 value) = some true then some true else none := by
  unfold IpcRequest.does IpcRequest.orders
  cases req.names (.e164 value) with
  | true =>
    by_cases hset : req.strAdmCmd = "tracer.set"
    · simp [hset]
    · by_cases hreset : req.strAdmCmd = "tracer.reset" <;> simp [hset, hreset]
  | false => simp

/-- An order to reset a number resets the IMSI of the same digits. -/
theorem does_imsi (req : IpcRequest) (value : String) :
    req.does (.imsi value) =
      if req.orders (.e164 value) = some false then some false
      else req.orders (.imsi value) := by
  unfold IpcRequest.does IpcRequest.orders
  by_cases hset : req.strAdmCmd = "tracer.set"
  · simp [hset]
  · by_cases hreset : req.strAdmCmd = "tracer.reset"
    · cases himsi : req.names (.imsi value) <;> cases he164 : req.names (.e164 value) <;>
        simp [hreset, himsi, he164]
    · simp [hset, hreset]

theorem holds_run (reqs : List IpcRequest) (condition : TracerCondition) :
    (reqs.foldl ipcAdminCommand {}).Holds condition ↔
      lastWrite (·.does condition) reqs = some true := by
  have none_at_start : ¬ ({} : TracerState).Holds condition := by
    cases condition <;> exact List.not_mem_nil
  rw [foldl_iff_lastWrite (·.Holds condition) fun st req =>
    holds_ipcAdminCommand st req condition]
  simp [none_at_start]

/-- An access point that was named at all is in force. -/
theorem lastWrite_does_apn (reqs : List IpcRequest) (value : String) :
    lastWrite (·.does (.apn value)) reqs = some true ↔
      lastWrite (·.orders (.apn value)) reqs ≠ none := by
  simp only [does_apn, lastWrite_map]
  cases lastWrite (·.orders (.apn value)) reqs <;> simp

theorem orderObeyed_apn_iff (reqs : List IpcRequest) (value : String) :
    (lastWrite (·.does (.apn value)) reqs = some true ↔
        lastWrite (·.orders (.apn value)) reqs = some true) ↔
      lastWrite (·.orders (.apn value)) reqs ≠ some false := by
  rw [lastWrite_does_apn]
  cases lastWrite (·.orders (.apn value)) reqs with
  | none => simp
  | some b => cases b <;> simp

/-- A number that was set once is in force. -/
theorem lastWrite_does_e164 (reqs : List IpcRequest) (value : String) :
    lastWrite (·.does (.e164 value)) reqs = some true ↔
      ∃ req ∈ reqs, req.orders (.e164 value) = some true := by
  constructor
  · intro h
    obtain ⟨req, hreq, hdoes⟩ := mem_of_lastWrite h
    rw [does_e164] at hdoes
    split at hdoes
    next horders => exact ⟨req, hreq, horders⟩
    next => cases hdoes
  · rintro ⟨req, hreq, horders⟩
    cases hlast : lastWrite (·.does (.e164 value)) reqs with
    | none =>
      have hnone := lastWrite_eq_none_iff.mp hlast req hreq
      rw [does_e164, if_pos horders] at hnone
      cases hnone
    | some b =>
      obtain ⟨other, -, hdoes⟩ := mem_of_lastWrite hlast
      rw [does_e164] at hdoes
      split at hdoes
      · exact hdoes.symm
      · cases hdoes

theorem orderObeyed_e164_iff (reqs : List IpcRequest) (value : String) :
    (lastWrite (·.does (.e164 value)) reqs = some true ↔
        lastWrite (·.orders (.e164 value)) reqs = some true) ↔
      (lastWrite (·.orders (.e164 value)) reqs = some false →
        ∀ req ∈ reqs, req.orders (.e164 value) ≠ some true) := by
  rw [lastWrite_does_e164]
  constructor
  · intro obeyed hlast req hreq hset
    have last := obeyed.mp ⟨req, hreq, hset⟩
    rw [hlast] at last
    cases last
  · intro spared
    constructor
    · rintro ⟨req, hreq, hset⟩
      cases hlast : lastWrite (·.orders (.e164 value)) reqs with
      | none =>
        rw [lastWrite_eq_none_iff.mp hlast req hreq] at hset
        cases hset
      | some b =>
        cases b with
        | true => rfl
        | false => exact absurd hset (spared hlast req hreq)
    · exact mem_of_lastWrite

theorem does_imsi_eq_true {value : String} :
    req.does (.imsi value) = some true ↔ req.orders (.imsi value) = some true := by
  rw [does_imsi]
  split
  next h =>
    -- a reset is no order to set anything
    have hreset : req.orders (.imsi value) ≠ some true := by
      intro hset
      unfold IpcRequest.orders at h hset
      split at h
      · split at h
        · cases h
        · simp_all
      · cases h
    simp [hreset]
  next => exact Iff.rfl

theorem does_imsi_eq_none {value : String} :
    req.does (.imsi value) = none ↔
      req.orders (.imsi value) = none ∧ req.orders (.e164 value) ≠ some false := by
  rw [does_imsi]
  split
  next h => simp [h]
  next h => simp [h]

/-- An IMSI stays in force when no number of the same digits is reset after it was set. -/
theorem lastWrite_does_imsi (reqs : List IpcRequest) (value : String) :
    lastWrite (·.does (.imsi value)) reqs = some true ↔
      ∃ front req rest, reqs = front ++ req :: rest ∧ req.orders (.imsi value) = some true ∧
        ∀ later ∈ rest, later.orders (.imsi value) = none ∧
          later.orders (.e164 value) ≠ some false := by
  simp only [lastWrite_eq_some_iff, does_imsi_eq_true, does_imsi_eq_none]

theorem orderObeyed_imsi_iff (reqs : List IpcRequest) (value : String) :
    (lastWrite (·.does (.imsi value)) reqs = some true ↔
        lastWrite (·.orders (.imsi value)) reqs = some true) ↔
      ∀ front req rest, reqs = front ++ req :: rest → req.orders (.imsi value) = some true →
        (∀ later ∈ rest, later.orders (.imsi value) = none) →
        ∀ later ∈ rest, later.orders (.e164 value) ≠ some false := by
  constructor
  · rintro obeyed front req rest rfl hset hquiet later hlater hreset
    have ordered : lastWrite (·.orders (.imsi value)) (front ++ req :: rest) = some true :=
      lastWrite_eq_some_iff.mpr ⟨front, req, rest, rfl, hset, hquiet⟩
    have does := obeyed.mpr ordered
    -- something is done to the IMSI after it was set, and it cannot be to set it
    rw [List.append_cons, lastWrite_append] at does
    cases hlast : lastWrite (·.does (.imsi value)) rest with
    | none =>
      have hnone := lastWrite_eq_none_iff.mp hlast later hlater
      exact (does_imsi_eq_none.mp hnone).2 hreset
    | some b =>
      rw [hlast, Option.some_or, Option.some_inj] at does
      subst does
      obtain ⟨other, hother, hdoes⟩ := mem_of_lastWrite hlast
      rw [does_imsi_eq_true, hquiet other hother] at hdoes
      cases hdoes
  · intro spared
    rw [lastWrite_does_imsi, lastWrite_eq_some_iff]
    constructor
    · rintro ⟨front, req, rest, heq, hset, hquiet⟩
      exact ⟨front, req, rest, heq, hset, fun later hlater => (hquiet later hlater).1⟩
    · rintro ⟨front, req, rest, heq, hset, hquiet⟩
      exact ⟨front, req, rest, heq, hset, fun later hlater =>
        ⟨hquiet later hlater, spared front req rest heq hset hquiet later hlater⟩⟩

end Orders

theorem obeysLastOrder_iff (reqs : List IpcRequest) : ObeysLastOrder reqs ↔ ResetsSpared reqs := by
  have inForce : ∀ condition, condition ≠ .applicationId 0 →
      ((reqs.foldl ipcAdminCommand {}).InForce condition ↔
        lastWrite (·.does condition) reqs = some true) := by
    intro condition h
    rw [inForce_iff, holds_run]
    exact and_iff_left h
  constructor
  · intro obeys
    refine ⟨?_, ?_, ?_⟩
    · intro value
      have obeyed := obeys (.apn value)
      rw [inForce _ (by simp)] at obeyed
      exact (orderObeyed_apn_iff reqs value).mp obeyed
    · intro value
      have obeyed := obeys (.e164 value)
      rw [inForce _ (by simp)] at obeyed
      exact (orderObeyed_e164_iff reqs value).mp obeyed
    · intro value
      have obeyed := obeys (.imsi value)
      rw [inForce _ (by simp)] at obeyed
      exact (orderObeyed_imsi_iff reqs value).mp obeyed
  · intro spared condition
    cases condition with
    | apn value =>
      rw [inForce _ (by simp)]
      exact (orderObeyed_apn_iff reqs value).mpr (spared.apn value)
    | e164 value =>
      rw [inForce _ (by simp)]
      exact (orderObeyed_e164_iff reqs value).mpr (spared.e164 value)
    | imsi value =>
      rw [inForce _ (by simp)]
      exact (orderObeyed_imsi_iff reqs value).mpr (spared.imsi value)
    | applicationId value =>
      by_cases hzero : value = 0
      · -- no request names the application 0
        have unnamed : ∀ req : IpcRequest, req.orders (.applicationId value) = none := by
          intro req
          simp [IpcRequest.orders, IpcRequest.names, IpcRequest.application, hzero]
        have quiet : lastWrite (·.orders (.applicationId value)) reqs = none :=
          lastWrite_eq_none_iff.mpr fun req _ => unnamed req
        rw [inForce_iff, quiet]
        simp [hzero]
      · rw [inForce _ (by simpa using hzero)]
        simp only [does_applicationId]

/-- An access point that is set and reset. -/
theorem not_obeysLastOrder_apn : ¬ ∀ reqs, ObeysLastOrder reqs := by
  intro obeys
  have obeyed := (obeys
    [{ strAdmCmd := "tracer.set", psoCache.coCalledStationId := .of "internet" },
     { strAdmCmd := "tracer.reset", psoCache.coCalledStationId := .of "internet" }])
    (.apn "internet")
  rw [inForce_iff, holds_run] at obeyed
  exact absurd (obeyed.mp ⟨by decide, by decide⟩) (by decide)

end Pcrf
