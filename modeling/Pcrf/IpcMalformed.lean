import Pcrf.IpcRoundTrip
import Pcrf.Lib.Machine

/-!
Attributes that are malformed: what `pcrf_ipc_process_request` makes of a length that does not
fit its attribute.
-/

namespace Pcrf

open Lib

/-! ### What an attribute is used for -/

/-- Vendor, code and length in the header at the start of the bytes; `none` when they are less
than a header. -/
def avpHeader (bytes : List Char) : Option (UInt16 × UInt16 × Nat) :=
  match readBytes bytes 0 2, readBytes bytes 2 2, readBytes bytes 6 2 with
  | some vendId, some avpId, some payloadLen =>
    some (UInt16.ofNat vendId, UInt16.ofNat avpId, payloadLen)
  | _, _, _ => none

/-- The field that the attribute in the buffer is used for, and the bytes copied to it. -/
def ipcAvpUse (codes : IpcCodes) (buf : List Char) :
    Except IpcFault (Option (IpcField × List Char)) :=
  match avpHeader buf with
  | some (vendId, avpId, payloadLen) =>
    match ipcField codes vendId avpId with
    | some field =>
      if field.isInt32 ∧ payloadLen ≠ payloadHdrSize + 4 then .ok none
      else if payloadLen < payloadHdrSize then .error .lengthError
      else if buf.length < payloadLen then .error .overread
      else .ok (some (field, (buf.take payloadLen).drop payloadHdrSize))
    | none => .ok none
  | none => .error .overread

/-- Using an attribute is storing its value. -/
def IpcRequest.use (req : IpcRequest) : Option (IpcField × List Char) → IpcRequest
  | some (field, data) => field.store req data
  | none => req

/-- The bytes of the attribute hold a value for the field: the length in their header is not less
than the header, and not more than the attribute. -/
def SPSReqAttr.Carries (codes : IpcCodes) (attr : SPSReqAttr) (field : IpcField)
    (data : List Char) : Prop :=
  ∃ vendId avpId payloadLen, avpHeader attr.data = some (vendId, avpId, payloadLen) ∧
    ipcField codes vendId avpId = some field ∧
    payloadHdrSize ≤ payloadLen ∧ payloadLen ≤ attr.data.length ∧
    data = (attr.data.take payloadLen).drop payloadHdrSize

/-- What is in the buffer is used as a value that the attribute carries, or not at all. -/
def UsesRightly (codes : IpcCodes) (buf : List Char) (attr : SPSReqAttr) : Prop :=
  ∃ use, ipcAvpUse codes buf = .ok use ∧
    ∀ field data, use = some (field, data) → attr.Carries codes field data

/-- A header is found in the buffer, and a length that does not fit the attribute stands only with
codes that no field has, or with a number's that is not 4 bytes long. -/
def HeaderFits (codes : IpcCodes) (buf : List Char) (attr : SPSReqAttr) : Prop :=
  ∃ vendId avpId payloadLen, avpHeader buf = some (vendId, avpId, payloadLen) ∧
    ∀ field, ipcField codes vendId avpId = some field →
      (field.isInt32 = true → payloadLen = payloadHdrSize + 4) →
      payloadHdrSize ≤ payloadLen ∧ payloadLen ≤ attr.data.length

section Attribute

variable {codes : IpcCodes}

theorem ipcReadAvp_eq (req : IpcRequest) :
    ipcReadAvp codes req = (ipcAvpUse codes req.pmucBuf).map req.use := by
  unfold ipcReadAvp ipcAvpUse avpHeader
  cases readBytes req.pmucBuf 0 2 with
  | none => rfl
  | some vendId =>
    cases readBytes req.pmucBuf 2 2 with
    | none => rfl
    | some avpId =>
      cases readBytes req.pmucBuf 6 2 with
      | none => rfl
      | some payloadLen =>
        simp only
        cases ipcField codes (UInt16.ofNat vendId) (UInt16.ofNat avpId) with
        | none => rfl
        | some field =>
          simp only
          -- the same four cases on both sides
          split
          · rfl
          · split
            · rfl
            · split <;> rfl

theorem readBytes_append_left {bytes : List Char} {offset width n : Nat}
    (h : readBytes bytes offset width = some n) (tail : List Char) :
    readBytes (bytes ++ tail) offset width = some n := by
  unfold readBytes at h ⊢
  split at h
  next within =>
    -- the bytes that are read lie before the tail
    have longer : offset + width ≤ (bytes ++ tail).length := by
      rw [List.length_append]
      omega
    rw [if_pos longer, ← h, List.drop_append_of_le_length (by omega),
      List.take_append_of_le_length (by rw [List.length_drop]; omega)]
  next => cases h

/-- A header that lies in the attribute is found in the buffer that the attribute is copied to. -/
theorem avpHeader_append {bytes : List Char} {header : UInt16 × UInt16 × Nat}
    (h : avpHeader bytes = some header) (tail : List Char) :
    avpHeader (bytes ++ tail) = some header := by
  unfold avpHeader at h ⊢
  split at h
  next vendId avpId payloadLen hVend hAvp hLen =>
    simp only [readBytes_append_left hVend, readBytes_append_left hAvp, readBytes_append_left hLen]
    exact h
  next => cases h

/-- An attribute of 8 bytes or more has its own header. -/
theorem avpHeader_of_length {bytes : List Char} (h : payloadHdrSize ≤ bytes.length)
    (tail : List Char) : avpHeader (bytes ++ tail) = avpHeader bytes := by
  have found : ∃ header, avpHeader bytes = some header := by
    unfold payloadHdrSize at h
    simp only [avpHeader, readBytes]
    rw [if_pos (by omega), if_pos (by omega), if_pos (by omega)]
    exact ⟨_, rfl⟩
  obtain ⟨header, found⟩ := found
  rw [found, avpHeader_append found]

/-- An attribute carries at most one value. -/
theorem carries_unique {attr : SPSReqAttr} {field other : IpcField} {data bytes : List Char}
    (h : attr.Carries codes field data) (h' : attr.Carries codes other bytes) :
    other = field ∧ bytes = data := by
  obtain ⟨vendId, avpId, payloadLen, hHeader, hField, -, -, rfl⟩ := h
  obtain ⟨vendId', avpId', payloadLen', hHeader', hField', -, -, rfl⟩ := h'
  rw [hHeader] at hHeader'
  cases hHeader'
  rw [hField] at hField'
  cases hField'
  exact ⟨rfl, rfl⟩

/-- A value that is no number is used, whatever lies behind the attribute. -/
theorem use_of_carries {attr : SPSReqAttr} {field : IpcField} {data : List Char}
    (h : attr.Carries codes field data) (text : field.isInt32 = false) (tail : List Char) :
    ipcAvpUse codes (attr.data ++ tail) = .ok (some (field, data)) := by
  obtain ⟨vendId, avpId, payloadLen, hHeader, hField, hAtLeast, hAtMost, rfl⟩ := h
  have hNumber : ¬ (field.isInt32 = true ∧ payloadLen ≠ payloadHdrSize + 4) := by
    rintro ⟨number, -⟩
    rw [text] at number
    cases number
  have hWithin : ¬ (attr.data ++ tail).length < payloadLen := by
    rw [List.length_append]
    omega
  simp only [ipcAvpUse, avpHeader_append hHeader, hField]
  rw [if_neg hNumber, if_neg (by omega), if_neg hWithin, List.take_append_of_le_length hAtMost]

/-- A value that is used rightly had a header that fits it. -/
theorem headerFits_of_usesRightly {attr : SPSReqAttr} {tail : List Char}
    (h : UsesRightly codes (attr.data ++ tail) attr) :
    HeaderFits codes (attr.data ++ tail) attr := by
  obtain ⟨use, hUse, hCarries⟩ := h
  unfold ipcAvpUse at hUse
  cases hHeader : avpHeader (attr.data ++ tail) with
  | none =>
    simp only [hHeader] at hUse
    cases hUse
  | some header =>
    obtain ⟨vendId, avpId, payloadLen⟩ := header
    refine ⟨vendId, avpId, payloadLen, hHeader, fun field hField hNumber => ?_⟩
    have hTaken : ¬ (field.isInt32 = true ∧ payloadLen ≠ payloadHdrSize + 4) :=
      fun h => h.2 (hNumber h.1)
    simp only [hHeader, hField, if_neg hTaken] at hUse
    split at hUse
    next => cases hUse
    next hAtLeast =>
      split at hUse
      next => cases hUse
      next =>
        -- the use tells which header the attribute itself has
        obtain ⟨vendId', avpId', payloadLen', hOwn, -, -, hAtMost, -⟩ :=
          hCarries field _ (Except.ok.inj hUse).symm
        have hSame := avpHeader_append hOwn tail
        rw [hHeader] at hSame
        cases hSame
        exact ⟨by omega, hAtMost⟩

/-- What an attribute whose header fits is used for is a value that it carries. -/
theorem usesRightly_of_headerFits {attr : SPSReqAttr} {tail : List Char}
    (h : HeaderFits codes (attr.data ++ tail) attr) :
    UsesRightly codes (attr.data ++ tail) attr := by
  obtain ⟨vendId, avpId, payloadLen, hHeader, hFits⟩ := h
  unfold UsesRightly ipcAvpUse
  simp only [hHeader]
  cases hField : ipcField codes vendId avpId with
  | none => exact ⟨none, rfl, nofun⟩
  | some field =>
    simp only
    by_cases hNumber : field.isInt32 = true ∧ payloadLen ≠ payloadHdrSize + 4
    · rw [if_pos hNumber]
      exact ⟨none, rfl, nofun⟩
    · -- the value lies within the attribute, so it is copied from there
      have hTaken : field.isInt32 = true → payloadLen = payloadHdrSize + 4 := by
        intro number
        by_contra hne
        exact hNumber ⟨number, hne⟩
      obtain ⟨hAtLeast, hAtMost⟩ := hFits field hField hTaken
      have hWithin : ¬ (attr.data ++ tail).length < payloadLen := by
        rw [List.length_append]
        omega
      rw [if_neg hNumber, if_neg (by omega), if_neg hWithin]
      refine ⟨_, rfl, fun field' data hUse => ?_⟩
      cases hUse
      refine ⟨vendId, avpId, payloadLen, ?_, hField, hAtLeast, hAtMost, ?_⟩
      · rw [← hHeader, avpHeader_of_length (by omega)]
      · rw [List.take_append_of_le_length hAtMost]

/-- An attribute is used rightly exactly when the header found in the buffer fits it. -/
theorem usesRightly_iff (attr : SPSReqAttr) (tail : List Char) :
    UsesRightly codes (attr.data ++ tail) attr ↔ HeaderFits codes (attr.data ++ tail) attr :=
  ⟨headerFits_of_usesRightly, usesRightly_of_headerFits⟩

end Attribute

/-! ### The attributes of a packet -/

/-- The attribute gives a value for the field. -/
def SPSReqAttr.Gives (codes : IpcCodes) (attr : SPSReqAttr) (field : IpcField)
    (data : List Char) : Prop :=
  attr.usAttrType = codes.PCRF_ATTR_AVP ∧ attr.Carries codes field data

section Loop

variable (codes : IpcCodes) (fresh : Nat → Nat → Char)

/-- The buffer in a turn of the attribute loop: one that is too small is replaced, and an attribute
`PCRF_ATTR_AVP` is copied to its front. -/
def ipcBuffer (buf : List Char) (attr : SPSReqAttr) : List Char :=
  let usDataLen := attr.data.length
  let stBufSize := usDataLen * 2
  let buf := if buf.length < usDataLen then (List.range stBufSize).map (fresh stBufSize) else buf
  if attr.usAttrType = codes.PCRF_ATTR_AVP then attr.data ++ buf.drop usDataLen else buf

/-- The buffer through the attribute loop. -/
def bufferMachine : Machine (List Char) SPSReqAttr where
  init := []
  step := ipcBuffer codes fresh

/-- Every attribute `PCRF_ATTR_AVP` that the loop comes to is used rightly, or not at all. -/
def UsesAllRightly (req : IpcRequest) (attrs : List SPSReqAttr) : Prop :=
  Along (ipcReadAttr codes fresh) (fun req attr => attr.usAttrType = codes.PCRF_ATTR_AVP →
    UsesRightly codes (ipcBuffer codes fresh req.pmucBuf attr) attr) req attrs

/-- In the buffer, every attribute `PCRF_ATTR_AVP` has a header that fits it. -/
def AllFit (attrs : List SPSReqAttr) : Prop :=
  (bufferMachine codes fresh).Meets (fun buf attr => attr.usAttrType = codes.PCRF_ATTR_AVP →
    HeaderFits codes (ipcBuffer codes fresh buf attr) attr) attrs

end Loop

section Turn

variable {codes : IpcCodes} {fresh : Nat → Nat → Char} {req : IpcRequest} {attr : SPSReqAttr}

theorem readAttr_avp (h : attr.usAttrType = codes.PCRF_ATTR_AVP) :
    ipcReadAttr codes fresh req attr =
      ipcReadAvp codes { req with pmucBuf := ipcBuffer codes fresh req.pmucBuf attr } := by
  obtain ⟨notAdm, notSubscr, notMonit⟩ := attr_avp_ne codes
  simp only [ipcReadAttr, ipcBuffer, h, notAdm, notSubscr, notMonit, if_false, if_true]
  split <;> rfl

/-- What a turn of the loop does to what a command needs. -/
structure TurnEffect (codes : IpcCodes) (fresh : Nat → Nat → Char) (req : IpcRequest)
    (attr : SPSReqAttr) (next : IpcRequest) : Prop where
  buffer : next.pmucBuf = ipcBuffer codes fresh req.pmucBuf attr
  sessionId : next.strSessionId.length = 0 ↔
    req.strSessionId.length = 0 ∧ ∀ data, attr.Gives codes .sessionId data → data = []
  ruleName : next.pstrRuleName.isSome = true ↔
    req.pstrRuleName.isSome = true ∨ ∃ data, attr.Gives codes .ruleName data

theorem length_insertFront (s : String) (data : List Char) :
    (insertFront s data).length = data.length + s.length := by
  simp [insertFront]

/-- The other attributes leave the session id and the rule name alone. -/
theorem turn_other (h : attr.usAttrType ≠ codes.PCRF_ATTR_AVP) :
    ∃ next, ipcReadAttr codes fresh req attr = .ok next ∧
      TurnEffect codes fresh req attr next := by
  have effect : ∀ next : IpcRequest, next.pmucBuf = ipcBuffer codes fresh req.pmucBuf attr →
      next.strSessionId = req.strSessionId → next.pstrRuleName = req.pstrRuleName →
      TurnEffect codes fresh req attr next := by
    intro next hBuffer hId hRule
    refine ⟨hBuffer, ?_, ?_⟩
    · rw [hId]
      exact ⟨fun hEmpty => ⟨hEmpty, fun data given => absurd given.1 h⟩, And.left⟩
    · rw [hRule]
      exact ⟨Or.inl, fun hEither => hEither.elim id fun ⟨data, given⟩ => absurd given.1 h⟩
  -- the buffer is replaced before the type is looked at
  have grown : (if req.pmucBuf.length < attr.data.length then
      { req with
        pmucBuf := (List.range (attr.data.length * 2)).map (fresh (attr.data.length * 2)) }
      else req) = { req with pmucBuf := ipcBuffer codes fresh req.pmucBuf attr } := by
    simp only [ipcBuffer, h, if_false]
    split <;> rfl
  simp only [ipcReadAttr, grown, h, if_false]
  split
  next => exact ⟨_, rfl, effect _ rfl rfl rfl⟩
  next =>
    split
    next => exact ⟨_, rfl, effect _ rfl rfl rfl⟩
    next =>
      split
      next => exact ⟨_, rfl, effect _ rfl rfl rfl⟩
      next => exact ⟨_, rfl, effect _ rfl rfl rfl⟩

/-- Storing a value in another field. -/
theorem store_sessionId_of_ne {field : IpcField} (h : field ≠ .sessionId) (req : IpcRequest)
    (data : List Char) : (field.store req data).strSessionId = req.strSessionId := by
  cases field <;> first | rfl | exact absurd rfl h

theorem store_ruleName_of_ne {field : IpcField} (h : field ≠ .ruleName) (req : IpcRequest)
    (data : List Char) : (field.store req data).pstrRuleName = req.pstrRuleName := by
  cases field <;> first | rfl | exact absurd rfl h

theorem store_buffer (field : IpcField) (req : IpcRequest) (data : List Char) :
    (field.store req data).pmucBuf = req.pmucBuf := by
  cases field <;> rfl

/-- The session id is empty after a value is stored, if no value that is given for it is not. -/
theorem use_sessionId {field : IpcField} {data : List Char}
    (hGives : attr.Gives codes field data) :
    (req.use (some (field, data))).strSessionId.length = 0 ↔
      req.strSessionId.length = 0 ∧
        ∀ bytes, attr.Gives codes .sessionId bytes → bytes = [] := by
  -- the session id is built up from the front, so it is empty only if all parts are
  by_cases hField : field = .sessionId
  · subst hField
    simp only [IpcRequest.use, IpcField.store, length_insertFront]
    constructor
    · intro hEmpty
      refine ⟨by omega, fun bytes hOther => ?_⟩
      rw [(carries_unique hGives.2 hOther.2).2]
      exact List.length_eq_zero_iff.mp (by omega)
    · rintro ⟨hEmpty, hAll⟩
      rw [hAll data hGives, hEmpty]
      rfl
  · simp only [IpcRequest.use, store_sessionId_of_ne hField]
    refine ⟨fun hEmpty => ⟨hEmpty, fun bytes hOther => ?_⟩, And.left⟩
    exact absurd (carries_unique hOther.2 hGives.2).1 hField

/-- There is a rule name after it, if there was one or it is one. -/
theorem use_ruleName {field : IpcField} {data : List Char}
    (hGives : attr.Gives codes field data) :
    (req.use (some (field, data))).pstrRuleName.isSome = true ↔
      req.pstrRuleName.isSome = true ∨ ∃ bytes, attr.Gives codes .ruleName bytes := by
  by_cases hField : field = .ruleName
  · subst hField
    exact ⟨fun _ => .inr ⟨data, hGives⟩, fun _ => rfl⟩
  · simp only [IpcRequest.use, store_ruleName_of_ne hField]
    constructor
    · exact Or.inl
    · rintro (hSome | ⟨bytes, hOther⟩)
      · exact hSome
      · exact absurd (carries_unique hOther.2 hGives.2).1 hField

/-- An attribute `PCRF_ATTR_AVP` that is used rightly has the effect of the value it gives. -/
theorem turn_avp (h : attr.usAttrType = codes.PCRF_ATTR_AVP)
    (rightly : UsesRightly codes (ipcBuffer codes fresh req.pmucBuf attr) attr) :
    ∃ next, ipcReadAttr codes fresh req attr = .ok next ∧
      TurnEffect codes fresh req attr next := by
  obtain ⟨use, hUse, hCarries⟩ := rightly
  rw [readAttr_avp h, ipcReadAvp_eq, hUse]
  -- a value that is given for one of the two fields is the one that is used
  have given : ∀ field data, field.isInt32 = false → attr.Gives codes field data →
      use = some (field, data) := by
    intro field data text given
    have hBuffer : ∃ tail, ipcBuffer codes fresh req.pmucBuf attr = attr.data ++ tail := by
      simp only [ipcBuffer, h, if_true]
      exact ⟨_, rfl⟩
    obtain ⟨tail, hBuffer⟩ := hBuffer
    rw [hBuffer, use_of_carries given.2 text tail] at hUse
    exact (Except.ok.inj hUse).symm
  refine ⟨_, rfl, ?_⟩
  cases use with
  | none =>
    refine ⟨rfl, ⟨fun hEmpty => ⟨hEmpty, fun data hGives => ?_⟩, And.left⟩, ⟨Or.inl, ?_⟩⟩
    · cases given .sessionId data rfl hGives
    · rintro (hSome | ⟨data, hGives⟩)
      · exact hSome
      · cases given .ruleName data rfl hGives
  | some value =>
    obtain ⟨field, data⟩ := value
    have hGives : attr.Gives codes field data := ⟨h, hCarries field data rfl⟩
    exact ⟨store_buffer .., use_sessionId hGives, use_ruleName hGives⟩

/-- A turn that uses its attribute rightly. -/
theorem turn_ok (rightly : attr.usAttrType = codes.PCRF_ATTR_AVP →
      UsesRightly codes (ipcBuffer codes fresh req.pmucBuf attr) attr) :
    ∃ next, ipcReadAttr codes fresh req attr = .ok next ∧
      TurnEffect codes fresh req attr next := by
  by_cases h : attr.usAttrType = codes.PCRF_ATTR_AVP
  · exact turn_avp h (rightly h)
  · exact turn_other h

end Turn

section Packet

variable {codes : IpcCodes} {fresh : Nat → Nat → Char}

/-- The loop uses all attributes rightly exactly when their headers fit. -/
theorem usesAllRightly_iff (req : IpcRequest) (attrs : List SPSReqAttr) :
    UsesAllRightly codes fresh req attrs ↔
      (bufferMachine codes fresh).MeetsFrom (fun buf attr =>
        attr.usAttrType = codes.PCRF_ATTR_AVP →
          HeaderFits codes (ipcBuffer codes fresh buf attr) attr) req.pmucBuf attrs := by
  induction attrs generalizing req with
  | nil => exact Iff.rfl
  | cons attr attrs ih =>
    have first : (attr.usAttrType = codes.PCRF_ATTR_AVP →
          UsesRightly codes (ipcBuffer codes fresh req.pmucBuf attr) attr) ↔
        (attr.usAttrType = codes.PCRF_ATTR_AVP →
          HeaderFits codes (ipcBuffer codes fresh req.pmucBuf attr) attr) := by
      refine forall_congr' fun h => ?_
      simp only [ipcBuffer, h, if_true]
      exact usesRightly_iff attr _
    constructor
    · rintro ⟨rightly, rest⟩
      obtain ⟨next, hNext, effect⟩ := turn_ok rightly
      have hRest := (ih next).mp (rest next hNext)
      rw [effect.buffer] at hRest
      exact ⟨first.mp rightly, hRest⟩
    · rintro ⟨fits, rest⟩
      have rightly := first.mpr fits
      obtain ⟨next, hNext, effect⟩ := turn_ok rightly
      refine ⟨rightly, fun other hOther => ?_⟩
      rw [hNext] at hOther
      cases hOther
      refine (ih next).mpr ?_
      rw [effect.buffer]
      exact rest

/-- A loop that uses all attributes rightly comes to its end, with the session id and the rule
name that the attributes give. -/
theorem readAttrs_rightly {req : IpcRequest} {attrs : List SPSReqAttr}
    (h : UsesAllRightly codes fresh req attrs) :
    ∃ last, attrs.foldlM (ipcReadAttr codes fresh) req = .ok last ∧
      (last.strSessionId.length = 0 ↔ req.strSessionId.length = 0 ∧
        ∀ attr ∈ attrs, ∀ data, attr.Gives codes .sessionId data → data = []) ∧
      (last.pstrRuleName.isSome = true ↔ req.pstrRuleName.isSome = true ∨
        ∃ attr ∈ attrs, ∃ data, attr.Gives codes .ruleName data) := by
  induction attrs generalizing req with
  | nil => exact ⟨req, rfl, by simp, by simp⟩
  | cons attr attrs ih =>
    obtain ⟨rightly, rest⟩ := h
    obtain ⟨next, hNext, effect⟩ := turn_ok rightly
    obtain ⟨last, hLast, hId, hRule⟩ := ih (rest next hNext)
    refine ⟨last, ?_, ?_, ?_⟩
    · rw [List.foldlM_cons, hNext]
      exact hLast
    · rw [hId, effect.sessionId, List.forall_mem_cons, and_assoc]
    · rw [hRule, effect.ruleName, or_assoc]
      simp only [List.mem_cons, exists_eq_or_imp]

end Packet

end Pcrf
