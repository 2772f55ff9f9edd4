import Pcrf.IpcPacket
import Pcrf.SessionCache
import Pcrf.SessionRule

/-!
`pcrf_ipc_process_request`: the attributes of a packet are read into one buffer, field by field
into a request, and the command is carried out on the local caches.
-/

namespace Pcrf

open Lib

/-- What the attribute loop fills in. `stBufSize` is the length of `pmucBuf`. -/
structure IpcRequest where
  strSessionId : String := ""
  strAdmCmd : String := ""
  ui32ApplicationId : UInt32 := 0
  psoCache : SSessionCache := {}
  pstrParentSessionId : Option String := none
  pstrRuleName : Option String := none
  plistMonitKey : Option (List String) := none
  pmucBuf : List Char := []
  deriving DecidableEq

/-- What may stop the process: `insert` throws `length_error` on a negative length, and a read may
go beyond the buffer. -/
inductive IpcFault where
  | lengthError
  | overread
  deriving Repr, DecidableEq

/-- The labels of the switch over vendor and code. -/
inductive IpcField where
  | framedIPAddr | calledStationId | sessionId | applicationId | originHost | originRealm
  | sgsnIPAddr | sgsnMCCMNC | iIPCANType | iRATType | monitKey
  | subscriberId | cgi | ecgi | tai | imei | imsi | e164 | parentSessionId | ipcanType | ratType
  | ruleName
  deriving Repr, DecidableEq

/-- The fields that are taken only when they are 4 bytes long. -/
def IpcField.isInt32 : IpcField → Bool
  | applicationId | iIPCANType | iRATType => true
  | _ => false

/-- `insert( 0, data, len )` -/
def insertFront (s : String) (data : List Char) : String := String.ofList (data ++ s.toList)

/-- `insert( 0, data, len )` and `set_non_null`. -/
def OtlValue.insertFront (o : OtlValue String) (data : List Char) : OtlValue String :=
  .of (Pcrf.insertFront o.v data)

/-- Four bytes as an `int32_t`. -/
def int32OfBytes (data : List Char) : Int32 := (UInt32.ofNat (ofBytes data)).toInt32

/-- The bodies of the switch. -/
def IpcField.store (field : IpcField) (req : IpcRequest) (data : List Char) : IpcRequest :=
  match field with
  | framedIPAddr =>
    { req with psoCache.coFramedIPAddr := req.psoCache.coFramedIPAddr.insertFront data }
  | calledStationId =>
    { req with psoCache.coCalledStationId := req.psoCache.coCalledStationId.insertFront data }
  | sessionId => { req with strSessionId := insertFront req.strSessionId data }
  | applicationId => { req with ui32ApplicationId := UInt32.ofNat (ofBytes data) }
  | originHost => { req with psoCache.coOriginHost := req.psoCache.coOriginHost.insertFront data }
  | originRealm =>
    { req with psoCache.coOriginRealm := req.psoCache.coOriginRealm.insertFront data }
  | sgsnIPAddr => { req with psoCache.coSGSNIPAddr := req.psoCache.coSGSNIPAddr.insertFront data }
  | sgsnMCCMNC => { req with psoCache.coSGSNMCCMNC := req.psoCache.coSGSNMCCMNC.insertFront data }
  | iIPCANType => { req with psoCache.iIPCANType := int32OfBytes data }
  | iRATType => { req with psoCache.iRATType := int32OfBytes data }
  | monitKey =>
    { req with plistMonitKey := some (req.plistMonitKey.getD [] ++ [String.ofList data]) }
  | subscriberId =>
    { req with psoCache.coSubscriberId := req.psoCache.coSubscriberId.insertFront data }
  | cgi => { req with psoCache.coCGI := req.psoCache.coCGI.insertFront data }
  | ecgi => { req with psoCache.coECGI := req.psoCache.coECGI.insertFront data }
  | tai => { req with psoCache.coTAI := req.psoCache.coTAI.insertFront data }
  | imei => { req with psoCache.coIMEISV := req.psoCache.coIMEISV.insertFront data }
  | imsi => { req with psoCache.coEndUserIMSI := req.psoCache.coEndUserIMSI.insertFront data }
  | e164 => { req with psoCache.coEndUserE164 := req.psoCache.coEndUserE164.insertFront data }
  | parentSessionId => { req with pstrParentSessionId := some (String.ofList data) }
  | ipcanType => { req with psoCache.coIPCANType := req.psoCache.coIPCANType.insertFront data }
  | ratType => { req with psoCache.coRATType := req.psoCache.coRATType.insertFront data }
  | ruleName => { req with pstrRuleName := some (String.ofList data) }

section Process

variable (codes : IpcCodes)

/-- The switch over vendor and code. -/
def ipcField (vendId avpId : UInt16) : Option IpcField :=
  if vendId = 0 then
    if avpId = 8 then some .framedIPAddr
    else if avpId = 30 then some .calledStationId
    else if avpId = 263 then some .sessionId
    else if avpId = 258 then some .applicationId
    else if avpId = 264 then some .originHost
    else if avpId = 296 then some .originRealm
    else none
  else if vendId = 10415 then
    if avpId = 6 then some .sgsnIPAddr
    else if avpId = 18 then some .sgsnMCCMNC
    else if avpId = 1027 then some .iIPCANType
    else if avpId = 1032 then some .iRATType
    else if avpId = 1066 then some .monitKey
    else none
  else if vendId = 65535 then
    if avpId = codes.PS_SUBSCR then some .subscriberId
    else if avpId = codes.PCRF_ATTR_CGI then some .cgi
    else if avpId = codes.PCRF_ATTR_ECGI then some .ecgi
    else if avpId = codes.PCRF_ATTR_TAI then some .tai
    else if avpId = codes.PCRF_ATTR_IMEI then some .imei
    else if avpId = codes.PCRF_ATTR_IMSI then some .imsi
    else if avpId = codes.PCRF_ATTR_E164 then some .e164
    else if avpId = codes.PCRF_ATTR_PSES then some .parentSessionId
    else if avpId = codes.PCRF_ATTR_IPCANTYPE then some .ipcanType
    else if avpId = codes.PCRF_ATTR_RATTYPE then some .ratType
    else if avpId = codes.PCRF_ATTR_RULNM then some .ruleName
    else none
  else none

/-- The case `PCRF_ATTR_AVP`, after the attribute was copied to the buffer: the header is read
from there, and so is the value, wherever the header says that it ends. -/
def ipcReadAvp (req : IpcRequest) : Except IpcFault IpcRequest :=
  match readBytes req.pmucBuf 0 2, readBytes req.pmucBuf 2 2, readBytes req.pmucBuf 6 2 with
  | some vendId, some avpId, some payloadLen =>
    match ipcField codes (UInt16.ofNat vendId) (UInt16.ofNat avpId) with
    | some field =>
      if field.isInt32 ∧ payloadLen ≠ payloadHdrSize + 4 then .ok req
      else if payloadLen < payloadHdrSize then .error .lengthError
      else if req.pmucBuf.length < payloadLen then .error .overread
      else .ok (field.store req ((req.pmucBuf.take payloadLen).drop payloadHdrSize))
    | none => .ok req
  | _, _, _ => .error .overread

/-- One turn of the attribute loop. A new buffer of `size` bytes starts with what `malloc` finds
there, `fresh size`. -/
def ipcReadAttr (fresh : Nat → Nat → Char) (req : IpcRequest) (attr : SPSReqAttr) :
    Except IpcFault IpcRequest :=
  let usDataLen := attr.data.length
  let stBufSize := usDataLen * 2
  let req := if req.pmucBuf.length < usDataLen then
      { req with pmucBuf := (List.range stBufSize).map (fresh stBufSize) }
    else req
  if attr.usAttrType = codes.PS_ADMCMD then
    .ok { req with strAdmCmd := insertFront req.strAdmCmd attr.data }
  else if attr.usAttrType = codes.PS_SUBSCR then .ok (IpcField.subscriberId.store req attr.data)
  else if attr.usAttrType = 1066 then .ok (IpcField.monitKey.store req attr.data)
  else if attr.usAttrType = codes.PCRF_ATTR_AVP then
    -- the tail of the buffer keeps what an earlier attribute left there
    ipcReadAvp codes { req with pmucBuf := attr.data ++ req.pmucBuf.drop usDataLen }
  else .ok req

/-- The attribute loop. -/
def ipcReadAttrs (fresh : Nat → Nat → Char) (attrs : List SPSReqAttr) :
    Except IpcFault IpcRequest :=
  attrs.foldlM (ipcReadAttr codes fresh) {}

/-- The caches of a node. -/
structure NodeCaches where
  sessions : SessionCacheState := {}
  rules : SessionRuleCache := Store.empty

/-- The commands that change the caches of a node; the others only read them.
`pcrf_peer_dialect_ret` looks a peer up by host and realm. -/
def ipcCommand (pcrfPeerDialectRet : String → String → PeerDialect) (caches : NodeCaches)
    (uiReqType : UInt16) (req : IpcRequest) : NodeCaches :=
  if uiReqType = codes.PCRF_CMD_INSERT_SESSION then
    let dialect := pcrfPeerDialectRet req.psoCache.coOriginHost.v req.psoCache.coOriginRealm.v
    { caches with
      sessions := pcrfSessionCacheInsertLocal caches.sessions req.strSessionId req.psoCache
        req.pstrParentSessionId dialect }
  else if uiReqType = codes.PCRF_CMD_REMOVE_SESSION then
    { sessions := (pcrfSessionCacheRemoveLocal caches.sessions req.strSessionId).1
      rules := pcrfSessionRuleCacheRemoveSessLocal caches.rules req.strSessionId }
  else if uiReqType = codes.PCRF_CMD_INSERT_SESSRUL then
    match req.pstrRuleName with
    | some ruleName =>
      { caches with
        rules := pcrfSessionRuleCacheInsertLocal caches.rules req.strSessionId ruleName }
    | none => caches
  else if uiReqType = codes.PCRF_CMD_REMOVE_SESSRUL then
    match req.pstrRuleName with
    | some ruleName =>
      { caches with
        rules := pcrfSessionRuleCacheRemoveRuleLocal caches.rules req.strSessionId ruleName }
    | none => caches
  else caches

/-- `pcrf_ipc_process_request` for a packet that could be parsed. -/
def pcrfIpcProcessRequest (pack : CPSPacket) (fresh : Nat → Nat → Char)
    (pcrfPeerDialectRet : String → String → PeerDialect) (caches : NodeCaches)
    (packet : SPSRequest) : Except IpcFault NodeCaches :=
  (ipcReadAttrs codes fresh (pack.parse packet)).map
    (ipcCommand codes pcrfPeerDialectRet caches packet.usReqType)

end Process

end Pcrf
