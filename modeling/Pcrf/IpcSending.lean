import Pcrf.IpcPacket

/-!
When `pcrf_ipc_cmd2remote` sends a packet that does not hold the whole command.
-/

namespace Pcrf

open Lib

/-- The pair as it is packed: its length modulo 2^16 is what the header and the copy go by. -/
def IpcAvp.packed (avp : IpcAvp) : List Char :=
  payloadHdr avp.uiVendId avp.uiAVPId (avp.data.length % 2 ^ 16 + payloadHdrSize) ++
    avp.data.take (avp.data.length % 2 ^ 16)

/-- The pair with its full value. -/
def IpcAvp.whole (avp : IpcAvp) : List Char :=
  payloadHdr avp.uiVendId avp.uiAVPId (avp.data.length + payloadHdrSize) ++ avp.data

/-- The pair fits an attribute. -/
def IpcAvp.Fits (avp : IpcAvp) : Prop := avp.data.length + payloadHdrSize ≤ attrSize

instance (avp : IpcAvp) : Decidable avp.Fits := inferInstanceAs (Decidable (_ ≤ _))

/-- `pcrf_session_cache_fill_payload` takes the pair. -/
def IpcAvp.Taken (avp : IpcAvp) : Prop := avp.data.length % 2 ^ 16 + payloadHdrSize ≤ attrSize

instance (avp : IpcAvp) : Decidable avp.Taken := inferInstanceAs (Decidable (_ ≤ _))

theorem fillPayload_eq (avp : IpcAvp) : pcrfSessionCacheFillPayload attrSize avp =
    if avp.Taken then .ok avp.packed else .error EINVAL := rfl

theorem IpcAvp.Fits.taken {avp : IpcAvp} (fits : avp.Fits) : avp.Taken := by
  unfold IpcAvp.Fits IpcAvp.Taken payloadHdrSize attrSize at *
  omega

theorem IpcAvp.Fits.packed_eq {avp : IpcAvp} (fits : avp.Fits) : avp.packed = avp.whole := by
  have length : avp.data.length % 2 ^ 16 = avp.data.length := by
    unfold IpcAvp.Fits payloadHdrSize attrSize at fits
    omega
  simp only [IpcAvp.packed, IpcAvp.whole, length, List.take_length]

/-- A pair that is taken and loses nothing fits. -/
theorem IpcAvp.fits_of_packed_eq {avp : IpcAvp} (taken : avp.Taken) (h : avp.packed = avp.whole) :
    avp.Fits := by
  have lengths := congrArg List.length h
  simp only [IpcAvp.packed, IpcAvp.whole, payloadHdr, List.length_append, length_toBytes,
    List.length_take] at lengths
  unfold IpcAvp.Taken IpcAvp.Fits at *
  omega

section Sending

variable (codes : IpcCodes) (pack : CPSPacket)

/-- An error of `AddAttr`, or something missing at the end of the command, is met before a pair
that is not taken. -/
def Stopped (complete : Bool) : SPSRequest → List IpcAvp → Prop
  | _, [] => complete = false
  | request, avp :: avps =>
    avp.Taken ∧
      (pack.addAttr request 4096 ⟨codes.PCRF_ATTR_AVP, avp.packed⟩ ≤ 0 ∨
        Stopped complete
          { request with attrs := request.attrs ++ [⟨codes.PCRF_ATTR_AVP, avp.packed⟩] } avps)

/-- What `pcrf_ipc_cmd2remote` takes for the length. -/
def payloadLen (complete : Bool) : Except Int Int → Int
  | .ok retVal => if complete then retVal else -1
  | .error code => code

variable {codes pack}

theorem addAvps_cons (request : SPSRequest) (retVal : Int) (avp : IpcAvp) (avps : List IpcAvp) :
    addAvps codes pack 4096 request retVal (avp :: avps) =
      let attr : SPSReqAttr := ⟨codes.PCRF_ATTR_AVP, avp.packed⟩
      if ¬ avp.Taken then (request, .error EINVAL)
      else if pack.addAttr request 4096 attr ≤ 0 then (request, .error (-1))
      else addAvps codes pack 4096 { request with attrs := request.attrs ++ [attr] }
        (pack.addAttr request 4096 attr) avps := by
  rw [addAvps, fillPayload_eq]
  by_cases taken : avp.Taken
  · by_cases added : 0 < pack.addAttr request 4096 ⟨codes.PCRF_ATTR_AVP, avp.packed⟩
    · simp [taken, added, Int.not_le.mpr added]
    · simp [taken, added, Int.not_lt.mp added]
  · simp [taken]

/-- Encoding ends with a value above 0 exactly when nothing stops it first. -/
theorem payloadLen_pos_iff (codes : IpcCodes) (pack : CPSPacket) (complete : Bool)
    (avps : List IpcAvp) (request : SPSRequest) (retVal : Int) (h : avps = [] → 0 < retVal) :
    0 < payloadLen complete (addAvps codes pack 4096 request retVal avps).2 ↔
      ¬ Stopped codes pack complete request avps := by
  induction avps generalizing request retVal with
  | nil =>
    have positive := h rfl
    cases complete with
    | false => simp [addAvps, payloadLen, Stopped]
    | true => simpa [addAvps, payloadLen, Stopped] using positive
  | cons avp avps ih =>
    rw [addAvps_cons, Stopped]
    by_cases taken : avp.Taken
    · by_cases added : pack.addAttr request 4096 ⟨codes.PCRF_ATTR_AVP, avp.packed⟩ ≤ 0
      · simp [taken, added, payloadLen]
      · simpa [taken, added] using ih _ _ fun _ => Int.not_le.mp added
    · simp [taken, payloadLen, EINVAL]

/-- The packet only grows. -/
theorem attrs_addAvps (codes : IpcCodes) (pack : CPSPacket) (avps : List IpcAvp)
    (request : SPSRequest) (retVal : Int) :
    request.attrs <+: (addAvps codes pack 4096 request retVal avps).1.attrs := by
  induction avps generalizing request retVal with
  | nil => exact List.prefix_rfl
  | cons avp avps ih =>
    rw [addAvps_cons]
    by_cases taken : avp.Taken
    · by_cases added : pack.addAttr request 4096 ⟨codes.PCRF_ATTR_AVP, avp.packed⟩ ≤ 0
      · simp [taken, added]
      · simp only [taken, added, not_true, if_false]
        exact (List.prefix_append request.attrs [_]).trans (ih { request with
        attrs := request.attrs ++ [⟨codes.PCRF_ATTR_AVP, avp.packed⟩] } _)
    · simp [taken]

/-- When nothing stops the encoding, the packet holds all full values exactly if all fit. -/
theorem attrs_whole_iff (complete : Bool) (avps : List IpcAvp) (request : SPSRequest)
    (retVal : Int) (going : ¬ Stopped codes pack complete request avps) :
    (addAvps codes pack 4096 request retVal avps).1.attrs =
        request.attrs ++ avps.map (fun avp => ⟨codes.PCRF_ATTR_AVP, avp.whole⟩) ↔
      ∀ avp ∈ avps, avp.Fits := by
  induction avps generalizing request retVal with
  | nil => simp [addAvps]
  | cons avp avps ih =>
    rw [addAvps_cons]
    rw [Stopped] at going
    by_cases taken : avp.Taken
    swap
    · -- the encoding ends here, with the packet as it was
      have unfit : ¬ avp.Fits := fun fits => taken fits.taken
      simp [taken, unfit]
    by_cases added : pack.addAttr request 4096 ⟨codes.PCRF_ATTR_AVP, avp.packed⟩ ≤ 0
    · exact absurd ⟨taken, .inl added⟩ going
    have rest := ih { request with
        attrs := request.attrs ++ [⟨codes.PCRF_ATTR_AVP, avp.packed⟩] }
      (pack.addAttr request 4096 ⟨codes.PCRF_ATTR_AVP, avp.packed⟩)
      fun stopped => going ⟨taken, .inr stopped⟩
    simp only [taken, added, not_true, if_false, List.forall_mem_cons]
    rw [← rest]
    constructor
    · intro whole
      obtain ⟨more, grown⟩ := attrs_addAvps codes pack avps { request with
          attrs := request.attrs ++ [⟨codes.PCRF_ATTR_AVP, avp.packed⟩] }
        (pack.addAttr request 4096 ⟨codes.PCRF_ATTR_AVP, avp.packed⟩)
      -- the first attribute that was added is the first of the full ones
      have same := grown.trans whole
      rw [List.append_assoc, List.append_cancel_left_eq, List.map_cons, List.singleton_append,
        List.cons.injEq, SPSReqAttr.mk.injEq] at same
      refine ⟨IpcAvp.fits_of_packed_eq taken same.1.2, ?_⟩
      rw [← grown, same.2]
    · rintro ⟨fits, whole⟩
      rw [whole, fits.packed_eq]
      simp

/-- When everything fits, encoding is stopped or comes to its end with nothing missing. -/
theorem complete_of_fits {complete : Bool} {avps : List IpcAvp} {request : SPSRequest}
    (fits : ∀ avp ∈ avps, avp.Fits) (going : ¬ Stopped codes pack complete request avps) :
    complete = true := by
  induction avps generalizing request with
  | nil => simpa [Stopped] using going
  | cons avp avps ih =>
    rw [List.forall_mem_cons] at fits
    rw [Stopped, not_and] at going
    exact ih fits.2 fun stopped => going fits.1.taken (.inr stopped)

/-- When everything fits, only `AddAttr` can fail. -/
theorem error_of_fits {avps : List IpcAvp} {request : SPSRequest} {retVal code : Int}
    (fits : ∀ avp ∈ avps, avp.Fits)
    (failed : (addAvps codes pack 4096 request retVal avps).2 = .error code) : code = -1 := by
  induction avps generalizing request retVal with
  | nil => simp [addAvps] at failed
  | cons avp avps ih =>
    rw [List.forall_mem_cons] at fits
    rw [addAvps_cons] at failed
    by_cases added : pack.addAttr request 4096 ⟨codes.PCRF_ATTR_AVP, avp.packed⟩ ≤ 0
    · simpa [fits.1.taken, added, eq_comm] using failed
    · simp only [fits.1.taken, added, not_true, if_false] at failed
      exact ih fits.2 failed

/-- The length of a packet is what `AddAttr` returned for its last attribute. -/
def PacketLen (pack : CPSPacket) (packet : SPSRequest) (len : Int) : Prop :=
  ∃ before last, packet.attrs = before ++ [last] ∧
    len = pack.addAttr { packet with attrs := before } 4096 last

theorem packetLen_addAvps {avps : List IpcAvp} {request : SPSRequest} {retVal len : Int}
    (before : avps = [] → PacketLen pack request retVal)
    (built : (addAvps codes pack 4096 request retVal avps).2 = .ok len) :
    PacketLen pack (addAvps codes pack 4096 request retVal avps).1 len := by
  induction avps generalizing request retVal with
  | nil =>
    simp only [addAvps, Except.ok.injEq] at built ⊢
    exact built ▸ before rfl
  | cons avp avps ih =>
    rw [addAvps_cons] at built ⊢
    by_cases taken : avp.Taken
    · by_cases added : pack.addAttr request 4096 ⟨codes.PCRF_ATTR_AVP, avp.packed⟩ ≤ 0
      · simp [taken, added] at built
      · simp only [taken, added, not_true, if_false] at built ⊢
        exact ih (fun _ => ⟨request.attrs, _, rfl, rfl⟩) built
    · simp [taken] at built

/-- What `pcrf_ipc_cmd2remote` has sent is the whole command: nothing of it is missing, each pair
is there with its full value, and the length is that of the packet. -/
def SendsWhole (codes : IpcCodes) (pack : CPSPacket) (inetAton : String → Bool)
    (nodeList : List SNode) (sessionId : String) (info : Option SSessionCache) (cmdType : UInt16)
    (optionalParam : Option String) : Prop :=
  ∀ datagram ∈ pcrfIpcCmd2remote codes pack inetAton nodeList sessionId info cmdType optionalParam,
    (commandAvps codes info cmdType optionalParam).2 = true ∧
      datagram.packet.attrs = (pspackAvps codes sessionId info cmdType optionalParam).map
        (fun avp => ⟨codes.PCRF_ATTR_AVP, avp.whole⟩) ∧
      PacketLen pack datagram.packet datagram.payloadLen

/-- No node can be sent to, or no packet could be begun; or encoding goes on until all pairs are
added and they all fit, or until it returns -1. -/
def SendsSafely (codes : IpcCodes) (pack : CPSPacket) (inetAton : String → Bool)
    (nodeList : List SNode) (sessionId : String) (info : Option SSessionCache) (cmdType : UInt16)
    (optionalParam : Option String) : Prop :=
  (∀ node ∈ nodeList, inetAton node.addr = false) ∨
    pack.init { usReqType := cmdType } 4096 < 0 ∨
    pack.init { usReqType := cmdType } 4096 = 0 ∧
      ((∀ avp ∈ pspackAvps codes sessionId info cmdType optionalParam, avp.Fits) ∨
        Stopped codes pack (commandAvps codes info cmdType optionalParam).2
          { usReqType := cmdType } (pspackAvps codes sessionId info cmdType optionalParam))

variable {inetAton : String → Bool} {nodeList : List SNode} {sessionId : String}
  {info : Option SSessionCache} {cmdType : UInt16} {optionalParam : Option String}

/-- The datagrams of a command whose packet could be begun. -/
theorem cmd2remote_begun (begun : pack.init { usReqType := cmdType } 4096 = 0) :
    pcrfIpcCmd2remote codes pack inetAton nodeList sessionId info cmdType optionalParam =
      let built := addAvps codes pack 4096 { usReqType := cmdType } 0
        (pspackAvps codes sessionId info cmdType optionalParam)
      let len := payloadLen (commandAvps codes info cmdType optionalParam).2 built.2
      if 0 < len then
        (nodeList.filter fun node => inetAton node.addr).map fun node => ⟨node, built.1, len⟩
      else [] := by
  simp only [pcrfIpcCmd2remote, pcrfSessionCacheFillPspack, begun, ne_eq, not_true, if_false]
  generalize addAvps codes pack 4096 { usReqType := cmdType } 0
    (pspackAvps codes sessionId info cmdType optionalParam) = built
  obtain ⟨packet, retVal⟩ := built
  cases retVal with
  | error code => rfl
  | ok retVal =>
    cases (commandAvps codes info cmdType optionalParam).2 <;> rfl

/-- `Init` failed: its code is returned, and taken for a length when it is positive. -/
theorem cmd2remote_failed (failed : pack.init { usReqType := cmdType } 4096 ≠ 0) :
    pcrfIpcCmd2remote codes pack inetAton nodeList sessionId info cmdType optionalParam =
      if 0 < pack.init { usReqType := cmdType } 4096 then
        (nodeList.filter fun node => inetAton node.addr).map fun node =>
          ⟨node, { usReqType := cmdType }, pack.init { usReqType := cmdType } 4096⟩
      else [] := by
  simp only [pcrfIpcCmd2remote, pcrfSessionCacheFillPspack, failed, ne_eq, not_false_eq_true,
    if_true]

theorem mem_cmd2remote {datagram : IpcDatagram} (mem : datagram ∈
      pcrfIpcCmd2remote codes pack inetAton nodeList sessionId info cmdType optionalParam) :
    datagram.node ∈ nodeList ∧ inetAton datagram.node.addr = true := by
  by_cases begun : pack.init { usReqType := cmdType } 4096 = 0
  · rw [cmd2remote_begun begun] at mem
    simp only at mem
    split at mem
    · obtain ⟨node, hnode, rfl⟩ := List.mem_map.mp mem
      exact List.mem_filter.mp hnode
    · cases mem
  · rw [cmd2remote_failed begun] at mem
    split at mem
    · obtain ⟨node, hnode, rfl⟩ := List.mem_map.mp mem
      exact List.mem_filter.mp hnode
    · cases mem

/-- With a packet begun and a node to send to, the command is sent whole exactly if all pairs
fit, or encoding is stopped. -/
theorem sendsWhole_begun {node : SNode} (hnode : node ∈ nodeList)
    (good : inetAton node.addr = true) (begun : pack.init { usReqType := cmdType } 4096 = 0) :
    SendsWhole codes pack inetAton nodeList sessionId info cmdType optionalParam ↔
      (∀ avp ∈ pspackAvps codes sessionId info cmdType optionalParam, avp.Fits) ∨
        Stopped codes pack (commandAvps codes info cmdType optionalParam).2
          { usReqType := cmdType } (pspackAvps codes sessionId info cmdType optionalParam) := by
  rw [SendsWhole, cmd2remote_begun begun]
  generalize hcomplete : (commandAvps codes info cmdType optionalParam).2 = complete
  generalize havps : pspackAvps codes sessionId info cmdType optionalParam = avps
  have some_avp : avps ≠ [] := by simp [← havps, pspackAvps]
  have positive := payloadLen_pos_iff codes pack complete avps
    { usReqType := cmdType } 0 fun h => absurd h some_avp
  by_cases stopped : Stopped codes pack complete { usReqType := cmdType } avps
  · -- nothing is sent
    have nothing := mt positive.mp (not_not.mpr stopped)
    simp [nothing, stopped]
  have whole := attrs_whole_iff complete avps { usReqType := cmdType } 0 stopped
  simp only [positive.mpr stopped, if_true, stopped, or_false]
  rw [List.nil_append] at whole
  constructor
  · intro all
    have filtered : node ∈ nodeList.filter fun node => inetAton node.addr :=
      List.mem_filter.mpr ⟨hnode, good⟩
    exact whole.mp (all _ (List.mem_map_of_mem filtered)).2.1
  · intro fits datagram mem
    obtain ⟨target, -, rfl⟩ := List.mem_map.mp mem
    have nothing_missing := complete_of_fits fits stopped
    refine ⟨nothing_missing, whole.mpr fits, ?_⟩
    have sent := positive.mpr stopped
    cases built : (addAvps codes pack 4096 { usReqType := cmdType } 0 avps).2 with
    | error code =>
      rw [built, payloadLen, error_of_fits fits built] at sent
      omega
    | ok retVal =>
      rw [nothing_missing]
      exact packetLen_addAvps (fun h => absurd h some_avp) built

/-- Only whole commands are sent exactly when the command is sent safely. -/
theorem sendsWhole_iff : SendsWhole codes pack inetAton nodeList sessionId info cmdType
      optionalParam ↔
    SendsSafely codes pack inetAton nodeList sessionId info cmdType optionalParam := by
  by_cases nodes : ∀ node ∈ nodeList, inetAton node.addr = false
  · refine ⟨fun _ => .inl nodes, fun _ datagram mem => ?_⟩
    obtain ⟨hnode, good⟩ := mem_cmd2remote mem
    exact absurd good (by simp [nodes _ hnode])
  obtain ⟨node, hnode, good⟩ : ∃ node ∈ nodeList, inetAton node.addr = true := by
    simpa using nodes
  by_cases begun : pack.init { usReqType := cmdType } 4096 = 0
  · rw [sendsWhole_begun hnode good begun]
    simp [SendsSafely, nodes, begun]
  · have safely : SendsSafely codes pack inetAton nodeList sessionId info cmdType optionalParam ↔
        pack.init { usReqType := cmdType } 4096 < 0 := by
      simp [SendsSafely, nodes, begun]
    rw [safely, SendsWhole, cmd2remote_failed begun]
    by_cases positive : 0 < pack.init { usReqType := cmdType } 4096
    · -- the first bytes of an empty packet are sent
      rw [if_pos positive]
      refine ⟨fun whole => ?_, fun negative => by omega⟩
      have filtered : node ∈ nodeList.filter fun node => inetAton node.addr :=
        List.mem_filter.mpr ⟨hnode, good⟩
      have attrs := (whole _ (List.mem_map_of_mem filtered)).2.1
      simp [pspackAvps] at attrs
    · rw [if_neg positive]
      refine ⟨fun _ => by omega, fun _ datagram mem => ?_⟩
      cases mem

/-- The insertion of a rule takes two pairs, and nothing of it is left out. -/
theorem pspackAvps_insertRule (sessionId ruleName : String) :
    pspackAvps sampleCodes sessionId none sampleCodes.PCRF_CMD_INSERT_SESSRUL (some ruleName) =
      [⟨0, 263, sessionId.toList⟩, ⟨65535, sampleCodes.PCRF_ATTR_RULNM, ruleName.toList⟩] := rfl

theorem commandAvps_insertRule (ruleName : String) :
    (commandAvps sampleCodes none sampleCodes.PCRF_CMD_INSERT_SESSRUL (some ruleName)).2 = true :=
  rfl

/-- A rule name of 300 bytes fits no attribute. The error code 22 is taken for a length, and the
first 22 bytes of the unfinished packet are sent. -/
theorem sendsWhole_counterexample :
    ¬ SendsWhole sampleCodes samplePacket (fun _ => true) [⟨"10.0.0.2", 7777⟩] "gx;1;1" none
      sampleCodes.PCRF_CMD_INSERT_SESSRUL (some (String.ofList (List.replicate 300 'r'))) := by
  intro whole
  -- the name as a list of characters, so that the kernel does not decode 300 bytes
  rw [SendsWhole, cmd2remote_begun rfl, pspackAvps_insertRule, commandAvps_insertRule,
    @String.toList_ofList (List.replicate 300 'r')] at whole
  have sent := whole
    ⟨⟨"10.0.0.2", 7777⟩,
      ⟨0, sampleCodes.PCRF_CMD_INSERT_SESSRUL,
        [⟨sampleCodes.PCRF_ATTR_AVP, IpcAvp.packed ⟨0, 263, "gx;1;1".toList⟩⟩]⟩, 22⟩
    (by decide +kernel)
  have attrs := congrArg List.length sent.2.1
  exact absurd attrs (by decide)

end Sending

end Pcrf
