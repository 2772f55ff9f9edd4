import Pcrf.IpcRequest
import Pcrf.IpcSending
import Pcrf.Lib.Cells
import Mathlib.Data.List.Perm.Basic

/-!
What `pcrf_session_cache_fill_pspack` packs is what the attribute loop of
`pcrf_ipc_process_request` reads, in whatever order the packet gives the attributes back.
-/

namespace Pcrf

open Lib

/-! ### The fields of a request as cells -/

/-- A field as bytes: null, or what it holds. -/
def OtlValue.bytes (o : OtlValue String) : OtlValue (List Char) := ⟨o.v.toList, o.null⟩

/-- A string that may be missing. -/
def optionBytes : Option String → OtlValue (List Char)
  | some s => .of s.toList
  | none => .empty

/-- An `int32_t` in memory. -/
def int32Bytes (i : Int32) : List Char := toBytes 4 i.toUInt32.toNat

/-- What a request holds in a field. -/
def IpcField.get (field : IpcField) (req : IpcRequest) : OtlValue (List Char) :=
  match field with
  | framedIPAddr => req.psoCache.coFramedIPAddr.bytes
  | calledStationId => req.psoCache.coCalledStationId.bytes
  | sessionId => .of req.strSessionId.toList
  | applicationId => .of (toBytes 4 req.ui32ApplicationId.toNat)
  | originHost => req.psoCache.coOriginHost.bytes
  | originRealm => req.psoCache.coOriginRealm.bytes
  | sgsnIPAddr => req.psoCache.coSGSNIPAddr.bytes
  | sgsnMCCMNC => req.psoCache.coSGSNMCCMNC.bytes
  | iIPCANType => .of (int32Bytes req.psoCache.iIPCANType)
  | iRATType => .of (int32Bytes req.psoCache.iRATType)
  | monitKey => ⟨(req.plistMonitKey.getD []).flatMap String.toList, req.plistMonitKey.isNone⟩
  | subscriberId => req.psoCache.coSubscriberId.bytes
  | cgi => req.psoCache.coCGI.bytes
  | ecgi => req.psoCache.coECGI.bytes
  | tai => req.psoCache.coTAI.bytes
  | imei => req.psoCache.coIMEISV.bytes
  | imsi => req.psoCache.coEndUserIMSI.bytes
  | e164 => req.psoCache.coEndUserE164.bytes
  | parentSessionId => optionBytes req.pstrParentSessionId
  | ipcanType => req.psoCache.coIPCANType.bytes
  | ratType => req.psoCache.coRATType.bytes
  | ruleName => optionBytes req.pstrRuleName

/-- A field is stored in its own cell only. -/
theorem get_store_of_ne {field other : IpcField} (h : other ≠ field) (req : IpcRequest)
    (data : List Char) : field.get (other.store req data) = field.get req := by
  cases field <;> cases other <;> first | rfl | exact absurd rfl h

/-- A value inserted into a field that is null and empty is the value of the field. -/
theorem bytes_insertFront {o : OtlValue String}
    (h : o.bytes = (OtlValue.empty : OtlValue String).bytes) (data : List Char) :
    (o.insertFront data).bytes = .of data := by
  have nothing : o.v.toList = [] := congrArg OtlValue.v h
  simp [OtlValue.insertFront, insertFront, OtlValue.bytes, OtlValue.of, nothing]

/-- What is stored in an empty field is what it holds then. -/
theorem get_store_self {field : IpcField} {req : IpcRequest} {data : List Char}
    (untouched : field.get req = field.get {})
    (whole : field.isInt32 = true → ∃ n : UInt32, data = toBytes 4 n.toNat) :
    field.get (field.store req data) = .of data := by
  by_cases int32 : field.isInt32 = true
  · -- the four bytes are those of a number, and are read as that number
    obtain ⟨n, rfl⟩ := whole int32
    have value : UInt32.ofNat (ofBytes (toBytes 4 n.toNat)) = n := by
      rw [ofBytes_toBytes n.toNat_lt, UInt32.ofNat_toNat]
    cases field <;> first | exact absurd int32 (by decide) | skip
    all_goals simp [IpcField.get, IpcField.store, int32Bytes, int32OfBytes, value]
  · clear whole
    cases field <;>
      first
        | exact absurd rfl int32
        | exact bytes_insertFront untouched data
        | simp_all [IpcField.get, IpcField.store, insertFront, OtlValue.of, optionBytes]

/-- The buffer is no part of what is stored. -/
theorem store_withBuf (field : IpcField) (req : IpcRequest) (buf data : List Char) :
    field.store { req with pmucBuf := buf } data =
      { field.store req data with pmucBuf := buf } := by
  cases field <;> rfl

theorem get_withBuf (field : IpcField) (req : IpcRequest) (buf : List Char) :
    field.get { req with pmucBuf := buf } = field.get req := by
  cases field <;> rfl

theorem putAll_withBuf (writes : List (IpcField × List Char)) (req : IpcRequest)
    (buf : List Char) :
    putAll IpcField.store { req with pmucBuf := buf } writes =
      { putAll IpcField.store req writes with pmucBuf := buf } := by
  induction writes generalizing req with
  | nil => rfl
  | cons w writes ih => exact (congrArg (putAll _ · writes) (store_withBuf ..)).trans (ih _)

/-! ### Reading one attribute -/

section Reading

variable {codes : IpcCodes}

/-- The pair is read as a value of a field. -/
def Packs (codes : IpcCodes) (avp : IpcAvp) (w : IpcField × List Char) : Prop :=
  ipcField codes avp.uiVendId avp.uiAVPId = some w.1 ∧ avp.data = w.2 ∧
    (w.1.isInt32 = true → ∃ n : UInt32, w.2 = toBytes 4 n.toNat)

/-- The attribute that a pair is packed in. -/
def IpcAvp.attr (codes : IpcCodes) (avp : IpcAvp) : SPSReqAttr := ⟨codes.PCRF_ATTR_AVP, avp.whole⟩

/-- The header of a pair that lies at the start of the buffer. -/
theorem read_header {avp : IpcAvp} (fits : avp.Fits) (tail : List Char) :
    readBytes (avp.whole ++ tail) 0 2 = some avp.uiVendId.toNat ∧
      readBytes (avp.whole ++ tail) 2 2 = some avp.uiAVPId.toNat ∧
      readBytes (avp.whole ++ tail) 6 2 = some (avp.data.length + payloadHdrSize) := by
  have len : avp.data.length + payloadHdrSize < 256 ^ 2 := by
    unfold IpcAvp.Fits attrSize at fits
    omega
  simp only [IpcAvp.whole, payloadHdr, List.append_assoc]
  refine ⟨?_, ?_, ?_⟩
  · exact @readBytes_append [] _ 2 _ avp.uiVendId.toNat_lt
  · exact @readBytes_append (toBytes 2 avp.uiVendId.toNat) _ 2 _ avp.uiAVPId.toNat_lt
  · have := @readBytes_append (toBytes 2 avp.uiVendId.toNat ++ toBytes 2 avp.uiAVPId.toNat ++
      toBytes 2 0) (avp.data ++ tail) 2 _ len
    simpa using this

/-- `PCRF_ATTR_AVP` is no label of another case of the loop. -/
theorem attr_avp_ne (codes : IpcCodes) : codes.PCRF_ATTR_AVP ≠ codes.PS_ADMCMD ∧
    codes.PCRF_ATTR_AVP ≠ codes.PS_SUBSCR ∧ codes.PCRF_ATTR_AVP ≠ 1066 := by
  have nodup := codes.attrs_nodup
  simp only [List.nodup_cons, List.mem_cons, List.not_mem_nil, or_false, not_or] at nodup
  exact ⟨Ne.symm nodup.1.2.2, Ne.symm nodup.2.1.2, Ne.symm nodup.2.2.1⟩

/-- One turn of the loop stores the value of a pair that fits, whatever the buffer holds. -/
theorem readAttr_whole {avp : IpcAvp} {w : IpcField × List Char} (packs : Packs codes avp w)
    (fits : avp.Fits) (fresh : Nat → Nat → Char) (req : IpcRequest) :
    ∃ buf, ipcReadAttr codes fresh req (avp.attr codes) =
      .ok { w.1.store req w.2 with pmucBuf := buf } := by
  obtain ⟨hfield, hdata, hint⟩ := packs
  obtain ⟨not_adm, not_subscr, not_monit⟩ := attr_avp_ne codes
  -- a buffer that is too small is replaced; either way the pair is copied to the front
  have copied : ∃ tail, ipcReadAttr codes fresh req (avp.attr codes) =
      ipcReadAvp codes { req with pmucBuf := avp.whole ++ tail } := by
    by_cases small : req.pmucBuf.length < avp.whole.length
    · simp only [ipcReadAttr, IpcAvp.attr, not_adm, not_subscr, not_monit, small, if_false, if_true]
      exact ⟨_, rfl⟩
    · simp only [ipcReadAttr, IpcAvp.attr, not_adm, not_subscr, not_monit, small, if_false, if_true]
      exact ⟨_, rfl⟩
  obtain ⟨tail, copied⟩ := copied
  obtain ⟨hvend, havp, hlen⟩ := read_header fits tail
  refine ⟨avp.whole ++ tail, copied.trans ?_⟩
  have enough : avp.whole.length = avp.data.length + payloadHdrSize := by
    simp only [IpcAvp.whole, payloadHdr, payloadHdrSize, List.length_append, length_toBytes]
    omega
  have value : ((avp.whole ++ tail).take (avp.data.length + payloadHdrSize)).drop payloadHdrSize =
      avp.data := by
    rw [List.take_left' enough, IpcAvp.whole]
    exact List.drop_left' (by simp [payloadHdr, payloadHdrSize])
  -- the test `sizeof( ... ) == m_uiPayloadLen - sizeof( *psoPayload )` goes through
  have int32 : ¬ (w.1.isInt32 = true ∧ avp.data.length + payloadHdrSize ≠ payloadHdrSize + 4) := by
    rintro ⟨is_int, hne⟩
    obtain ⟨n, hn⟩ := hint is_int
    rw [hdata, hn, length_toBytes] at hne
    omega
  have within : ¬ (avp.whole ++ tail).length < avp.data.length + payloadHdrSize := by
    rw [List.length_append]
    omega
  have positive : ¬ avp.data.length + payloadHdrSize < payloadHdrSize := by omega
  simp only [ipcReadAvp, hvend, havp, hlen, UInt16.ofNat_toNat, hfield, int32, positive, within,
    if_false, value]
  rw [store_withBuf, hdata]

/-- The attribute holds the value of a field. -/
def PacksAttr (codes : IpcCodes) (attr : SPSReqAttr) (w : IpcField × List Char) : Prop :=
  ∃ avp : IpcAvp, attr = avp.attr codes ∧ avp.Fits ∧ Packs codes avp w

theorem packsAttr_map {avps : List IpcAvp} {writes : List (IpcField × List Char)}
    (packs : List.Forall₂ (Packs codes) avps writes) (fits : ∀ avp ∈ avps, avp.Fits) :
    List.Forall₂ (PacksAttr codes) (avps.map (IpcAvp.attr codes)) writes := by
  induction packs with
  | nil => exact .nil
  | @cons avp w avps writes first rest ih =>
    exact .cons ⟨avp, rfl, fits avp (by simp), first⟩ (ih fun avp mem => fits avp (by simp [mem]))

theorem packsAttr_of_mem {attrs : List SPSReqAttr} {writes : List (IpcField × List Char)}
    (packs : List.Forall₂ (PacksAttr codes) attrs writes) {w : IpcField × List Char}
    (mem : w ∈ writes) : ∃ attr, PacksAttr codes attr w := by
  induction packs with
  | nil => cases mem
  | @cons attr w' attrs writes first rest ih =>
    cases List.mem_cons.mp mem with
    | inl same => exact ⟨attr, same ▸ first⟩
    | inr later => exact ih later

/-- The loop makes the writes of the packed pairs one after another. -/
theorem readAttrs_packed {attrs : List SPSReqAttr} {writes : List (IpcField × List Char)}
    (packs : List.Forall₂ (PacksAttr codes) attrs writes) (fresh : Nat → Nat → Char)
    (req : IpcRequest) :
    ∃ buf, attrs.foldlM (ipcReadAttr codes fresh) req =
      .ok { putAll IpcField.store req writes with pmucBuf := buf } := by
  induction packs generalizing req with
  | nil => exact ⟨req.pmucBuf, rfl⟩
  | @cons attr w attrs writes first rest ih =>
    obtain ⟨avp, rfl, fits, first⟩ := first
    obtain ⟨buf, turn⟩ := readAttr_whole first fits fresh req
    -- the next turn does not depend on what this one leaves in the buffer
    obtain ⟨last, loop⟩ := ih { w.1.store req w.2 with pmucBuf := buf }
    refine ⟨last, ?_⟩
    rw [List.foldlM_cons, turn]
    refine loop.trans ?_
    rw [putAll_withBuf]
    rfl

/-- Whatever order the attributes are read in, each field holds what the table says of it, and
the others stay as they were. -/
theorem read_cells {avps : List IpcAvp} {cells : List (IpcField × Option (List Char))}
    (packs : List.Forall₂ (Packs codes) avps (filled cells)) (fits : ∀ avp ∈ avps, avp.Fits)
    (nodup : (cells.map Prod.fst).Nodup) {attrs : List SPSReqAttr}
    (perm : attrs.Perm (avps.map (IpcAvp.attr codes))) (fresh : Nat → Nat → Char) :
    ∃ req, ipcReadAttrs codes fresh attrs = .ok req ∧
      ∀ field cell, (field, cell) ∈ cells →
        field.get req = cell.elim (field.get {}) OtlValue.of := by
  -- the multimap has an order of its own: the same writes, in that order
  obtain ⟨writes, packed, reordered⟩ := List.perm_comp_forall₂ perm (packsAttr_map packs fits)
  obtain ⟨buf, loop⟩ := readAttrs_packed packed fresh {}
  have keys : (writes.map Prod.fst).Perm ((filled cells).map Prod.fst) :=
    reordered.map Prod.fst
  refine ⟨_, loop, fun field cell mem => ?_⟩
  rw [get_withBuf]
  cases cell with
  | none =>
    -- a null field was not packed, so nothing is written to it
    have unwritten : field ∉ writes.map Prod.fst := fun h =>
      notMem_keys_filled nodup mem (keys.mem_iff.mp h)
    exact get_putAll_of_notMem (fun _ _ _ h => get_store_of_ne h ..) unwritten {}
  | some data =>
    have written : (field, data) ∈ writes := reordered.mem_iff.mpr (mem_filled.mpr mem)
    obtain ⟨attr, avp, -, -, -, -, whole⟩ := packsAttr_of_mem packed written
    exact get_putAll_of_mem (fun _ _ _ h => get_store_of_ne h ..)
      (keys.nodup_iff.mpr (nodup_keys_filled nodup)) written
      fun req untouched => get_store_self untouched whole

end Reading

/-! ### The table of a command -/

/-- A field as a value to send. -/
def OtlValue.text (o : OtlValue String) : Option (List Char) := o.toOption.map String.toList

/-- What `PCRF_CMD_INSERT_SESSION` tells about a session. -/
def insertSessionCells (info : SSessionCache) (parent : Option String) :
    List (IpcField × Option (List Char)) :=
  [(.subscriberId, info.coSubscriberId.text),
   (.framedIPAddr, info.coFramedIPAddr.text),
   (.calledStationId, info.coCalledStationId.text),
   (.iIPCANType, some (int32Bytes info.iIPCANType)),
   (.ipcanType, info.coIPCANType.text),
   (.sgsnMCCMNC, info.coSGSNMCCMNC.text),
   (.sgsnIPAddr, info.coSGSNIPAddr.text),
   (.iRATType, some (int32Bytes info.iRATType)),
   (.ratType, info.coRATType.text),
   (.originHost, info.coOriginHost.text),
   (.originRealm, info.coOriginRealm.text),
   (.cgi, info.coCGI.text),
   (.ecgi, info.coECGI.text),
   (.tai, info.coTAI.text),
   (.imei, info.coIMEISV.text),
   (.imsi, info.coEndUserIMSI.text),
   (.e164, info.coEndUserE164.text),
   (.parentSessionId, parent.map String.toList)]

section Table

variable (codes : IpcCodes)

/-- The table of a command, after the session id. -/
def commandCells (info : Option SSessionCache) (reqType : UInt16) (optionalParam : Option String) :
    List (IpcField × Option (List Char)) :=
  if reqType = codes.PCRF_CMD_INSERT_SESSION then
    match info with
    | some info => insertSessionCells info optionalParam
    | none => []
  else if reqType = codes.PCRF_CMD_INSERT_SESSRUL ∨ reqType = codes.PCRF_CMD_REMOVE_SESSRUL then
    [(.ruleName, optionalParam.map String.toList)]
  else []

/-- No two cells of a command are of one field. -/
theorem nodup_commandCells (sessionId : String) (info : Option SSessionCache) (reqType : UInt16)
    (optionalParam : Option String) :
    (((IpcField.sessionId, some sessionId.toList) ::
      commandCells codes info reqType optionalParam).map Prod.fst).Nodup := by
  unfold commandCells
  split
  · cases info with
    | none => exact List.nodup_singleton _
    | some info => simp [insertSessionCells]
  · split
    · simp
    · exact List.nodup_singleton _

/-- The codes that a command is packed with are those of the fields it is read into. -/
theorem ipcField_avps :
    ipcField codes 65535 codes.PS_SUBSCR = some .subscriberId ∧
    ipcField codes 65535 codes.PCRF_ATTR_CGI = some .cgi ∧
    ipcField codes 65535 codes.PCRF_ATTR_ECGI = some .ecgi ∧
    ipcField codes 65535 codes.PCRF_ATTR_TAI = some .tai ∧
    ipcField codes 65535 codes.PCRF_ATTR_IMEI = some .imei ∧
    ipcField codes 65535 codes.PCRF_ATTR_IMSI = some .imsi ∧
    ipcField codes 65535 codes.PCRF_ATTR_E164 = some .e164 ∧
    ipcField codes 65535 codes.PCRF_ATTR_PSES = some .parentSessionId ∧
    ipcField codes 65535 codes.PCRF_ATTR_IPCANTYPE = some .ipcanType ∧
    ipcField codes 65535 codes.PCRF_ATTR_RATTYPE = some .ratType ∧
    ipcField codes 65535 codes.PCRF_ATTR_RULNM = some .ruleName := by
  have nodup := codes.avps_nodup
  simp only [List.nodup_cons, List.mem_cons, List.not_mem_nil, or_false, not_or] at nodup
  have tenet (code : UInt16) : ipcField codes 65535 code =
      if code = codes.PS_SUBSCR then some .subscriberId
      else if code = codes.PCRF_ATTR_CGI then some .cgi
      else if code = codes.PCRF_ATTR_ECGI then some .ecgi
      else if code = codes.PCRF_ATTR_TAI then some .tai
      else if code = codes.PCRF_ATTR_IMEI then some .imei
      else if code = codes.PCRF_ATTR_IMSI then some .imsi
      else if code = codes.PCRF_ATTR_E164 then some .e164
      else if code = codes.PCRF_ATTR_PSES then some .parentSessionId
      else if code = codes.PCRF_ATTR_IPCANTYPE then some .ipcanType
      else if code = codes.PCRF_ATTR_RATTYPE then some .ratType
      else if code = codes.PCRF_ATTR_RULNM then some .ruleName
      else none := rfl
  simp only [tenet]
  grind

variable {codes} {vendId avpId : UInt16} {field : IpcField} {avps : List IpcAvp}
  {cells : List (IpcField × Option (List Char))}

/-- A nullable field is packed as its cell, if it has a value. -/
theorem packs_field (hfield : ipcField codes vendId avpId = some field)
    (text : field.isInt32 = false) (o : OtlValue String)
    (rest : List.Forall₂ (Packs codes) avps (filled cells)) :
    List.Forall₂ (Packs codes) (fieldAvp vendId avpId o ++ avps)
      (filled ((field, o.text) :: cells)) := by
  obtain ⟨v, null⟩ := o
  cases null with
  | true => exact rest
  | false => exact .cons ⟨hfield, rfl, fun h => absurd h (by simp [text])⟩ rest

theorem packs_int32 (hfield : ipcField codes vendId avpId = some field) (i : Int32)
    (rest : List.Forall₂ (Packs codes) avps (filled cells)) :
    List.Forall₂ (Packs codes) ([int32Avp vendId avpId i] ++ avps)
      (filled ((field, some (int32Bytes i)) :: cells)) :=
  .cons ⟨hfield, rfl, fun _ => ⟨i.toUInt32, rfl⟩⟩ rest

/-- A string that is packed whenever it is given. -/
theorem packs_string (hfield : ipcField codes vendId avpId = some field)
    (text : field.isInt32 = false) (s : String)
    (rest : List.Forall₂ (Packs codes) avps (filled cells)) :
    List.Forall₂ (Packs codes) (⟨vendId, avpId, s.toList⟩ :: avps)
      (filled ((field, some s.toList) :: cells)) :=
  .cons ⟨hfield, rfl, fun h => absurd h (by simp [text])⟩ rest

/-- A record is packed as its table. -/
theorem packs_insertSession (info : SSessionCache) (parent : Option String) :
    List.Forall₂ (Packs codes) (insertSessionAvps codes info parent)
      (filled (insertSessionCells info parent)) := by
  obtain ⟨subscriberId, cgi, ecgi, tai, imei, imsi, e164, parentSessionId, ipcanType, ratType, -⟩ :=
    ipcField_avps codes
  unfold insertSessionAvps insertSessionCells
  simp only [List.append_assoc]
  -- in the order in which `pcrf_session_cache_fill_pspack` adds them
  refine packs_field subscriberId rfl _ <| packs_field rfl rfl _ <| packs_field rfl rfl _ <|
    packs_int32 rfl _ <| packs_field ipcanType rfl _ <| packs_field rfl rfl _ <|
    packs_field rfl rfl _ <| packs_int32 rfl _ <| packs_field ratType rfl _ <|
    packs_field rfl rfl _ <| packs_field rfl rfl _ <| packs_field cgi rfl _ <|
    packs_field ecgi rfl _ <| packs_field tai rfl _ <| packs_field imei rfl _ <|
    packs_field imsi rfl _ <| packs_field e164 rfl _ ?_
  cases parent with
  | none => exact .nil
  | some parent => exact packs_string parentSessionId rfl parent .nil

/-- A command is packed as its table. -/
theorem packs_pspack (sessionId : String) (info : Option SSessionCache) (reqType : UInt16)
    (optionalParam : Option String) :
    List.Forall₂ (Packs codes) (pspackAvps codes sessionId info reqType optionalParam)
      (filled ((.sessionId, some sessionId.toList) ::
        commandCells codes info reqType optionalParam)) := by
  refine packs_string rfl rfl sessionId ?_
  obtain ⟨-, -, -, -, -, -, -, -, -, -, ruleName⟩ := ipcField_avps codes
  by_cases insert : reqType = codes.PCRF_CMD_INSERT_SESSION
  · cases info with
    | none => simp [commandAvps, commandCells, insert, filled]
    | some info => simpa [commandAvps, commandCells, insert] using packs_insertSession info _
  by_cases rule : reqType = codes.PCRF_CMD_INSERT_SESSRUL ∨ reqType = codes.PCRF_CMD_REMOVE_SESSRUL
  · have not_remove : reqType ≠ codes.PCRF_CMD_REMOVE_SESSION := by
      have nodup := codes.cmds_nodup
      simp only [List.nodup_cons, List.mem_cons, List.not_mem_nil, or_false, not_or] at nodup
      grind
    simp only [commandAvps, commandCells, insert, rule, not_remove, if_false, if_true]
    cases optionalParam with
    | none => exact .nil
    | some name => exact packs_string ruleName rfl name .nil
  · simp only [commandAvps, commandCells, insert, rule, if_false]
    split <;> exact .nil

end Table

/-! ### The round trip -/

section RoundTrip

variable {codes : IpcCodes} {pack : CPSPacket}

/-- Pairs that fit are added whole. -/
theorem addAvps_attrs {avps : List IpcAvp} (fits : ∀ avp ∈ avps, avp.Fits) {request : SPSRequest}
    {retVal len : Int} (built : (addAvps codes pack 4096 request retVal avps).2 = .ok len) :
    (addAvps codes pack 4096 request retVal avps).1 =
      { request with attrs := request.attrs ++ avps.map (IpcAvp.attr codes) } := by
  induction avps generalizing request retVal with
  | nil => simp [addAvps]
  | cons avp avps ih =>
    -- a pair that fits is taken, so only `AddAttr` could have stopped the packing
    have first := fits avp (by simp)
    rw [addAvps_cons] at built ⊢
    by_cases added : pack.addAttr request 4096 ⟨codes.PCRF_ATTR_AVP, avp.packed⟩ ≤ 0
    · simp [first.taken, added] at built
    · simp only [first.taken, added, not_true, if_false] at built ⊢
      rw [ih (fun avp mem => fits avp (by simp [mem])) built, first.packed_eq]
      simp [IpcAvp.attr]

/-- What is in the packet when packing it returns a length. -/
theorem fillPspack_packet {sessionId : String} {info : Option SSessionCache} {reqType : UInt16}
    {optionalParam : Option String} {len : Int}
    (fits : ∀ avp ∈ pspackAvps codes sessionId info reqType optionalParam, avp.Fits)
    (filled : (pcrfSessionCacheFillPspack codes pack 4096 sessionId info reqType optionalParam).2 =
      .ok len) :
    (pcrfSessionCacheFillPspack codes pack 4096 sessionId info reqType optionalParam).1 =
        { usReqType := reqType
          attrs := (pspackAvps codes sessionId info reqType optionalParam).map
            (IpcAvp.attr codes) } ∧
      (commandAvps codes info reqType optionalParam).2 = true := by
  simp only [pcrfSessionCacheFillPspack] at filled ⊢
  by_cases begun : pack.init { usReqType := reqType } 4096 = 0
  · simp only [begun, ne_eq, not_true, if_false] at filled ⊢
    -- the result of the packing, once `Init` went through
    generalize hbuilt : addAvps codes pack 4096 { usReqType := reqType } 0
      (pspackAvps codes sessionId info reqType optionalParam) = built at filled ⊢
    obtain ⟨packet, result⟩ := built
    cases result with
    | error code => cases filled
    | ok retVal =>
      have packet_eq := addAvps_attrs fits (congrArg Prod.snd hbuilt)
      rw [hbuilt] at packet_eq
      refine ⟨packet_eq, ?_⟩
      by_contra incomplete
      simp [incomplete] at filled
  · simp [begun] at filled

/-- A field without what a null one hides. -/
def OtlValue.shown (o : OtlValue String) : OtlValue String := if o.isNull then .empty else o

attribute [ext] SSessionCache

/-- The record without what its null fields hide. -/
def SSessionCache.shown (info : SSessionCache) : SSessionCache where
  coSubscriberId := info.coSubscriberId.shown
  coFramedIPAddr := info.coFramedIPAddr.shown
  coCalledStationId := info.coCalledStationId.shown
  coIPCANType := info.coIPCANType.shown
  coSGSNMCCMNC := info.coSGSNMCCMNC.shown
  coSGSNIPAddr := info.coSGSNIPAddr.shown
  coRATType := info.coRATType.shown
  coOriginHost := info.coOriginHost.shown
  coOriginRealm := info.coOriginRealm.shown
  coCGI := info.coCGI.shown
  coECGI := info.coECGI.shown
  coTAI := info.coTAI.shown
  coIMEISV := info.coIMEISV.shown
  coEndUserIMSI := info.coEndUserIMSI.shown
  coEndUserE164 := info.coEndUserE164.shown
  iIPCANType := info.iIPCANType
  iRATType := info.iRATType

/-- A field that holds what was sent of another one is the same, as far as it is shown. -/
theorem eq_shown {o sent : OtlValue String}
    (h : o.bytes = sent.text.elim (OtlValue.empty : OtlValue String).bytes OtlValue.of) :
    o = sent.shown := by
  obtain ⟨v, null⟩ := o
  obtain ⟨v', null'⟩ := sent
  cases null' with
  | true =>
    -- nothing was sent: the field is as the constructor of the record leaves it
    obtain ⟨hv, hnull⟩ := OtlValue.mk.inj h
    obtain rfl : v = "" := String.toList_inj.mp hv
    exact congrArg (OtlValue.mk "") hnull
  | false =>
    obtain ⟨hv, hnull⟩ := OtlValue.mk.inj h
    obtain rfl : v = v' := String.toList_inj.mp hv
    exact congrArg (OtlValue.mk v) hnull

theorem eq_of_int32Bytes {a b : Int32}
    (h : (.of (int32Bytes a) : OtlValue (List Char)) = .of (int32Bytes b)) : a = b := by
  have bytes : int32Bytes a = int32Bytes b := congrArg OtlValue.v h
  have numbers := congrArg ofBytes bytes
  rw [int32Bytes, int32Bytes, ofBytes_toBytes a.toUInt32.toNat_lt,
    ofBytes_toBytes b.toUInt32.toNat_lt, UInt32.toNat_inj] at numbers
  simpa using congrArg UInt32.toInt32 numbers

theorem eq_of_optionBytes {s sent : Option String}
    (h : optionBytes s = (sent.map String.toList).elim (optionBytes none) OtlValue.of) :
    s = sent := by
  cases s <;> cases sent <;>
    simp_all [optionBytes, OtlValue.of, OtlValue.empty, String.toList_inj]

/-- A record that holds all that the table of another one says. -/
theorem psoCache_eq_shown {req : IpcRequest} {info : SSessionCache} {parent : Option String}
    (read : ∀ field cell, (field, cell) ∈ insertSessionCells info parent →
      field.get req = cell.elim (field.get {}) OtlValue.of) :
    req.psoCache = info.shown ∧ req.pstrParentSessionId = parent := by
  have cell (field : IpcField) {value : Option (List Char)}
      (mem : (field, value) ∈ insertSessionCells info parent) := read field value mem
  unfold insertSessionCells at cell
  refine ⟨SSessionCache.ext ?_ ?_ ?_ ?_ ?_ ?_ ?_ ?_ ?_ ?_ ?_ ?_ ?_ ?_ ?_ ?_ ?_, ?_⟩
  · exact eq_shown (cell .subscriberId (by simp))
  · exact eq_shown (cell .framedIPAddr (by simp))
  · exact eq_shown (cell .calledStationId (by simp))
  · exact eq_shown (cell .ipcanType (by simp))
  · exact eq_shown (cell .sgsnMCCMNC (by simp))
  · exact eq_shown (cell .sgsnIPAddr (by simp))
  · exact eq_shown (cell .ratType (by simp))
  · exact eq_shown (cell .originHost (by simp))
  · exact eq_shown (cell .originRealm (by simp))
  · exact eq_shown (cell .cgi (by simp))
  · exact eq_shown (cell .ecgi (by simp))
  · exact eq_shown (cell .tai (by simp))
  · exact eq_shown (cell .imei (by simp))
  · exact eq_shown (cell .imsi (by simp))
  · exact eq_shown (cell .e164 (by simp))
  · exact eq_of_int32Bytes (@cell .iIPCANType (some (int32Bytes info.iIPCANType)) (by simp))
  · exact eq_of_int32Bytes (@cell .iRATType (some (int32Bytes info.iRATType)) (by simp))
  · exact eq_of_optionBytes (cell .parentSessionId (by simp))

/-- The fields of the request hold what the cells say. -/
def IpcRequest.Holds (req : IpcRequest) (cells : List (IpcField × Option (List Char))) : Prop :=
  ∀ field cell, (field, cell) ∈ cells → field.get req = cell.elim (field.get {}) OtlValue.of

/-- The attribute loop fills in the table of the command that the packet was built for. -/
theorem read_pspack {sessionId : String} {info : Option SSessionCache} {reqType : UInt16}
    {optionalParam : Option String} {packet : SPSRequest} {len : Int}
    (fits : ∀ avp ∈ pspackAvps codes sessionId info reqType optionalParam, avp.data.length ≤ 248)
    (built : pcrfSessionCacheFillPspack codes pack 4096 sessionId info reqType optionalParam =
      (packet, .ok len))
    (fresh : Nat → Nat → Char) :
    packet.usReqType = reqType ∧ (commandAvps codes info reqType optionalParam).2 = true ∧
      ∃ req, ipcReadAttrs codes fresh (pack.parse packet) = .ok req ∧
        req.Holds ((.sessionId, some sessionId.toList) ::
          commandCells codes info reqType optionalParam) := by
  have fit : ∀ avp ∈ pspackAvps codes sessionId info reqType optionalParam, avp.Fits :=
    fun avp mem => by
      have := fits avp mem
      unfold IpcAvp.Fits payloadHdrSize attrSize
      omega
  obtain ⟨hpacket, complete⟩ := fillPspack_packet fit (congrArg Prod.snd built)
  rw [built] at hpacket
  -- `Parse` gives back the attributes that were added, in some order
  have perm := pack.parse_perm packet
  rw [show packet.attrs = _ from congrArg SPSRequest.attrs hpacket] at perm
  exact ⟨congrArg SPSRequest.usReqType hpacket, complete,
    read_cells (packs_pspack sessionId info reqType optionalParam) fit
      (nodup_commandCells codes sessionId info reqType optionalParam) perm fresh⟩

section Holds

variable {req : IpcRequest} {sessionId : String} {info : Option SSessionCache} {reqType : UInt16}
  {optionalParam : Option String}

theorem IpcRequest.Holds.sessionId_eq {cells : List (IpcField × Option (List Char))}
    (h : req.Holds ((.sessionId, some sessionId.toList) :: cells)) :
    req.strSessionId = sessionId := by
  have id := h .sessionId (some sessionId.toList) (List.mem_cons_self ..)
  exact String.toList_inj.mp (congrArg OtlValue.v id)

/-- A session that is inserted comes with its record and its parent. -/
theorem IpcRequest.Holds.record_eq
    (h : req.Holds ((.sessionId, some sessionId.toList) ::
      commandCells codes info reqType optionalParam))
    (complete : (commandAvps codes info reqType optionalParam).2 = true)
    (insert : reqType = codes.PCRF_CMD_INSERT_SESSION) :
    info.map SSessionCache.shown = some req.psoCache ∧
      req.pstrParentSessionId = optionalParam := by
  cases info with
  | none => simp [commandAvps, insert] at complete
  | some info =>
    have cells : commandCells codes (some info) reqType optionalParam =
        insertSessionCells info optionalParam := by simp [commandCells, insert]
    rw [cells] at h
    obtain ⟨record, parent⟩ := psoCache_eq_shown fun field cell mem =>
      h field cell (List.mem_cons_of_mem _ mem)
    exact ⟨congrArg some record.symm, parent⟩

theorem IpcRequest.Holds.ruleName_eq
    (h : req.Holds ((.sessionId, some sessionId.toList) ::
      commandCells codes info reqType optionalParam))
    (rule : reqType = codes.PCRF_CMD_INSERT_SESSRUL ∨ reqType = codes.PCRF_CMD_REMOVE_SESSRUL) :
    req.pstrRuleName = optionalParam := by
  have not_insert : reqType ≠ codes.PCRF_CMD_INSERT_SESSION := by
    have nodup := codes.cmds_nodup
    simp only [List.nodup_cons, List.mem_cons, List.not_mem_nil, or_false, not_or] at nodup
    grind
  have cells : commandCells codes info reqType optionalParam =
      [(.ruleName, optionalParam.map String.toList)] := by simp [commandCells, not_insert, rule]
  exact eq_of_optionBytes (h .ruleName _ (by simp [cells]))

end Holds

/-- Decoding the packet of a command gives back what it was built from: the session id always,
the record and the parent when a session is inserted, and the rule name of the two commands
about rules. -/
theorem decode_pspack {sessionId : String} {info : Option SSessionCache} {reqType : UInt16}
    {optionalParam : Option String} {packet : SPSRequest} {len : Int}
    (fits : ∀ avp ∈ pspackAvps codes sessionId info reqType optionalParam, avp.data.length ≤ 248)
    (built : pcrfSessionCacheFillPspack codes pack 4096 sessionId info reqType optionalParam =
      (packet, .ok len))
    (fresh : Nat → Nat → Char) :
    packet.usReqType = reqType ∧
    ∃ req, ipcReadAttrs codes fresh (pack.parse packet) = .ok req ∧
      req.strSessionId = sessionId ∧
      (reqType = codes.PCRF_CMD_INSERT_SESSION →
        info.map SSessionCache.shown = some req.psoCache ∧
          req.pstrParentSessionId = optionalParam) ∧
      (reqType = codes.PCRF_CMD_INSERT_SESSRUL ∨ reqType = codes.PCRF_CMD_REMOVE_SESSRUL →
        req.pstrRuleName = optionalParam) := by
  obtain ⟨type, complete, req, loop, holds⟩ := read_pspack fits built fresh
  exact ⟨type, req, loop, holds.sessionId_eq, fun insert => holds.record_eq complete insert,
    fun rule => holds.ruleName_eq rule⟩

end RoundTrip

/-- A record with an empty field, and with null ones. -/
def sampleRecord : SSessionCache where
  coSubscriberId := .of "250010000000001"
  coFramedIPAddr := .of "10.1.2.3"
  coCalledStationId := .of ""
  coOriginHost := .of "ugw1"
  iIPCANType := 5
  iRATType := -1

/-- The packet that inserts the session of `sampleRecord`, the child of another. -/
def sampleInsertion : SPSRequest × Except Int Int :=
  pcrfSessionCacheFillPspack sampleCodes samplePacket 4096 "gx;1;2" (some sampleRecord)
    sampleCodes.PCRF_CMD_INSERT_SESSION (some "gx;1;1")

theorem decode_pspack_sample :
    ∃ req, ipcReadAttrs sampleCodes (fun _ _ => '?') (samplePacket.parse sampleInsertion.1) =
        .ok req ∧
      req.strSessionId = "gx;1;2" ∧ req.psoCache = sampleRecord.shown ∧
      req.pstrParentSessionId = some "gx;1;1" := by
  have built : sampleInsertion = (sampleInsertion.1, .ok 151) :=
    Prod.ext rfl (by decide +kernel)
  obtain ⟨-, req, loop, id, insert, -⟩ :=
    decode_pspack (by decide +kernel) built fun _ _ => '?'
  obtain ⟨record, parent⟩ := insert rfl
  exact ⟨req, loop, id, (Option.some.inj record).symm, parent⟩

end Pcrf
