import Pcrf.Lib.Bytes
import Pcrf.Types

/-!
`pcrf_ipc.cpp`, the sending side: a command to the other nodes, packed by
`pcrf_session_cache_fill_pspack` and sent by `pcrf_ipc_cmd2remote`.
-/

namespace Pcrf

open Lib

/-- The codes of the packets, from the headers of `utils/pspacket`. They are labels of the
switches of `pcrf_ipc_process_request`, which would not compile if two of one switch were equal. -/
structure IpcCodes where
  PS_ADMCMD : UInt16
  PS_SUBSCR : UInt16
  PCRF_ATTR_AVP : UInt16
  PCRF_ATTR_CGI : UInt16
  PCRF_ATTR_ECGI : UInt16
  PCRF_ATTR_TAI : UInt16
  PCRF_ATTR_IMEI : UInt16
  PCRF_ATTR_IMSI : UInt16
  PCRF_ATTR_E164 : UInt16
  PCRF_ATTR_PSES : UInt16
  PCRF_ATTR_IPCANTYPE : UInt16
  PCRF_ATTR_RATTYPE : UInt16
  PCRF_ATTR_RULNM : UInt16
  PCRF_CMD_INSERT_SESSION : UInt16
  PCRF_CMD_REMOVE_SESSION : UInt16
  PCRF_CMD_INSERT_SESSRUL : UInt16
  PCRF_CMD_REMOVE_SESSRUL : UInt16
  attrs_nodup : [PS_ADMCMD, PS_SUBSCR, 1066, PCRF_ATTR_AVP].Nodup
  avps_nodup : [PS_SUBSCR, PCRF_ATTR_CGI, PCRF_ATTR_ECGI, PCRF_ATTR_TAI, PCRF_ATTR_IMEI,
    PCRF_ATTR_IMSI, PCRF_ATTR_E164, PCRF_ATTR_PSES, PCRF_ATTR_IPCANTYPE, PCRF_ATTR_RATTYPE,
    PCRF_ATTR_RULNM].Nodup
  cmds_nodup : [PCRF_CMD_INSERT_SESSION, PCRF_CMD_REMOVE_SESSION, PCRF_CMD_INSERT_SESSRUL,
    PCRF_CMD_REMOVE_SESSRUL].Nodup

/-- An attribute of a packet. -/
structure SPSReqAttr where
  usAttrType : UInt16
  data : List Char
  deriving Repr, DecidableEq

/-- A packet being built. -/
structure SPSRequest where
  uiReqNum : UInt32 := 0
  usReqType : UInt16
  attrs : List SPSReqAttr := []
  deriving Repr, DecidableEq

/-- `CPSPacket` of `utils/pspacket`: the value `Init` returns for a packet and a buffer size, what
`AddAttr` returns, the length of the packet when it added the attribute, and the attributes that
`Parse` finds, as a multimap. -/
structure CPSPacket where
  init : SPSRequest → Nat → Int
  addAttr : SPSRequest → Nat → SPSReqAttr → Int
  parse : SPSRequest → List SPSReqAttr
  parse_perm : ∀ request, (parse request).Perm request.attrs

/-- An attribute-value pair as it is packed: vendor, code and data. -/
structure IpcAvp where
  uiVendId : UInt16
  uiAVPId : UInt16
  data : List Char
  deriving Repr, DecidableEq

/-- `sizeof( SPayloadHdr )` -/
def payloadHdrSize : Nat := 8

/-- `sizeof( mc_attr )` -/
def attrSize : Nat := 256

/-- `SPayloadHdr` as it lies in memory. -/
def payloadHdr (vendId avpId : UInt16) (payloadLen : Nat) : List Char :=
  toBytes 2 vendId.toNat ++ toBytes 2 avpId.toNat ++ toBytes 2 0 ++ toBytes 2 payloadLen

/-- `pcrf_session_cache_fill_payload`. The length is passed as a `uint16_t`. -/
def pcrfSessionCacheFillPayload (stMaxSize : Nat) (avp : IpcAvp) : Except Int (List Char) :=
  let dataLen := avp.data.length % 2 ^ 16
  if dataLen + payloadHdrSize ≤ stMaxSize then
    .ok (payloadHdr avp.uiVendId avp.uiAVPId (dataLen + payloadHdrSize) ++ avp.data.take dataLen)
  else .error EINVAL

/-- A field that is added when it is not null. -/
def fieldAvp (vendId avpId : UInt16) (field : OtlValue String) : List IpcAvp :=
  if field.isNull then [] else [⟨vendId, avpId, field.v.toList⟩]

/-- A field of type `int32_t`, as it lies in memory. -/
def int32Avp (vendId avpId : UInt16) (field : Int32) : IpcAvp :=
  ⟨vendId, avpId, toBytes 4 field.toUInt32.toNat⟩

section Fill

variable (codes : IpcCodes)

/-- What `PCRF_CMD_INSERT_SESSION` adds after the session id. -/
def insertSessionAvps (info : SSessionCache) (optionalParam : Option String) : List IpcAvp :=
  fieldAvp 65535 codes.PS_SUBSCR info.coSubscriberId ++
  fieldAvp 0 8 info.coFramedIPAddr ++
  fieldAvp 0 30 info.coCalledStationId ++
  [int32Avp 10415 1027 info.iIPCANType] ++
  fieldAvp 65535 codes.PCRF_ATTR_IPCANTYPE info.coIPCANType ++
  fieldAvp 10415 18 info.coSGSNMCCMNC ++
  fieldAvp 10415 6 info.coSGSNIPAddr ++
  [int32Avp 10415 1032 info.iRATType] ++
  fieldAvp 65535 codes.PCRF_ATTR_RATTYPE info.coRATType ++
  fieldAvp 0 264 info.coOriginHost ++
  fieldAvp 0 296 info.coOriginRealm ++
  fieldAvp 65535 codes.PCRF_ATTR_CGI info.coCGI ++
  fieldAvp 65535 codes.PCRF_ATTR_ECGI info.coECGI ++
  fieldAvp 65535 codes.PCRF_ATTR_TAI info.coTAI ++
  fieldAvp 65535 codes.PCRF_ATTR_IMEI info.coIMEISV ++
  fieldAvp 65535 codes.PCRF_ATTR_IMSI info.coEndUserIMSI ++
  fieldAvp 65535 codes.PCRF_ATTR_E164 info.coEndUserE164 ++
  match optionalParam with
  | some parent => [⟨65535, codes.PCRF_ATTR_PSES, parent.toList⟩]
  | none => []

/-- What a command adds after the session id, and whether nothing it needs is missing. -/
def commandAvps (info : Option SSessionCache) (reqType : UInt16) (optionalParam : Option String) :
    List IpcAvp × Bool :=
  if reqType = codes.PCRF_CMD_INSERT_SESSION then
    match info with
    | some info => (insertSessionAvps codes info optionalParam, true)
    | none => ([], false)
  else if reqType = codes.PCRF_CMD_REMOVE_SESSION then ([], true)
  else if reqType = codes.PCRF_CMD_INSERT_SESSRUL ∨ reqType = codes.PCRF_CMD_REMOVE_SESSRUL then
    match optionalParam with
    | some ruleName => ([⟨65535, codes.PCRF_ATTR_RULNM, ruleName.toList⟩], true)
    | none => ([], false)
  else ([], false)

/-- All the pairs of a command: the session id first. -/
def pspackAvps (sessionId : String) (info : Option SSessionCache) (reqType : UInt16)
    (optionalParam : Option String) : List IpcAvp :=
  ⟨0, 263, sessionId.toList⟩ :: (commandAvps codes info reqType optionalParam).1

variable (pack : CPSPacket)

/-- Add pairs one after another: `iRetVal` is what `AddAttr` returned last, and an error is what
is returned at once. -/
def addAvps (stBufSize : Nat) : SPSRequest → Int → List IpcAvp → SPSRequest × Except Int Int
  | request, retVal, [] => (request, .ok retVal)
  | request, _, avp :: avps =>
    match pcrfSessionCacheFillPayload attrSize avp with
    | .error code => (request, .error code)
    | .ok payload =>
      let attr : SPSReqAttr := ⟨codes.PCRF_ATTR_AVP, payload⟩
      let retVal := pack.addAttr request stBufSize attr
      if 0 < retVal then
        addAvps stBufSize { request with attrs := request.attrs ++ [attr] } retVal avps
      else (request, .error (-1))

/-- `pcrf_session_cache_fill_pspack`: the buffer, and the value returned, as an error when the
function returns before its end. -/
def pcrfSessionCacheFillPspack (stBufSize : Nat) (sessionId : String)
    (info : Option SSessionCache) (reqType : UInt16) (optionalParam : Option String) :
    SPSRequest × Except Int Int :=
  let request : SPSRequest := { usReqType := reqType }
  let init := pack.init request stBufSize
  if init ≠ 0 then (request, .error init)
  else
    match addAvps codes pack stBufSize request 0
        (pspackAvps codes sessionId info reqType optionalParam) with
    | (request, .ok retVal) =>
      (request, if (commandAvps codes info reqType optionalParam).2 then .ok retVal
        else .error (-1))
    | failed => failed

/-- `SNode`, as far as sending goes. -/
structure SNode where
  addr : String
  port : UInt16
  deriving Repr, DecidableEq

/-- A call of `sendto`: the first `payloadLen` bytes of the buffer, to a node. -/
structure IpcDatagram where
  node : SNode
  packet : SPSRequest
  payloadLen : Int
  deriving Repr, DecidableEq

/-- `pcrf_ipc_cmd2remote`. A value returned early is not told from a length. -/
def pcrfIpcCmd2remote (inetAton : String → Bool) (nodeList : List SNode) (sessionId : String)
    (info : Option SSessionCache) (cmdType : UInt16) (optionalParam : Option String) :
    List IpcDatagram :=
  let (packet, retVal) :=
    pcrfSessionCacheFillPspack codes pack 4096 sessionId info cmdType optionalParam
  let payloadLen := match retVal with
    | .ok retVal => retVal
    | .error code => code
  if 0 < payloadLen then
    (nodeList.filter fun node => inetAton node.addr).map fun node => ⟨node, packet, payloadLen⟩
  else []

end Fill

/-! ### A sample of what comes from the headers -/

/-- Distinct codes, to run the model with. -/
def sampleCodes : IpcCodes where
  PS_ADMCMD := 1
  PS_SUBSCR := 2
  PCRF_ATTR_AVP := 3
  PCRF_ATTR_CGI := 4
  PCRF_ATTR_ECGI := 5
  PCRF_ATTR_TAI := 6
  PCRF_ATTR_IMEI := 7
  PCRF_ATTR_IMSI := 8
  PCRF_ATTR_E164 := 9
  PCRF_ATTR_PSES := 10
  PCRF_ATTR_IPCANTYPE := 11
  PCRF_ATTR_RATTYPE := 12
  PCRF_ATTR_RULNM := 13
  PCRF_CMD_INSERT_SESSION := 1
  PCRF_CMD_REMOVE_SESSION := 2
  PCRF_CMD_INSERT_SESSRUL := 3
  PCRF_CMD_REMOVE_SESSRUL := 4
  attrs_nodup := by decide
  avps_nodup := by decide
  cmds_nodup := by decide

/-- A packet with a header of 8 bytes, and 4 more before each attribute. -/
def samplePacket : CPSPacket where
  init _ size := if 8 ≤ size then 0 else -1
  addAttr request size attr :=
    let len := ((request.attrs ++ [attr]).map fun attr => attr.data.length + 4).sum + 8
    if len ≤ size then len else -1
  parse request := request.attrs
  parse_perm request := .refl request.attrs

end Pcrf
