import Pcrf.NodeCalls
import Pcrf.Lib.Machine

/-!
The receiver of commands and its request operators. The receiver hands each datagram to the next
operator of a ring, into a buffer with room for one; the thread of the operator carries it out.
The two mutexes of an operator are handed back and forth: the receiver locks `m_mutexIPCSetData`
and unlocks `m_mutexIPCOperData`, the thread does it the other way round.
-/

namespace Pcrf

open Lib

/-- A datagram as `recvfrom` returns it. -/
structure IpcTask where
  buf : List Char
  iSock : Int := 0
  soAddr : String := ""
  deriving Repr, DecidableEq

/-- Where the receiver is in `SIPCReqOperator::SetTask`: locking `m_mutexIPCSetData`, copying,
unlocking `m_mutexIPCOperData`. -/
inductive SetTaskPc where
  | lock
  | copy
  | unlock
  deriving Repr, DecidableEq

/-- Where the thread is in `pcrf_ipc_supply_processor`: locking `m_mutexIPCOperData`, looking at
`m_stDataLen`, in `pcrf_ipc_process_request` with updates of the caches to make, unlocking
`m_mutexIPCSetData`. -/
inductive ProcessorPc where
  | lock
  | check
  | process (todo : List CallStep)
  | unlock

/-- `SIPCReqOperator` with its thread. A mutex is `true` while it is locked. `num` is no data of
the program: it is the number of the datagram in the buffer. -/
structure SIPCReqOperator where
  pmui8Data : List Char := []
  stDataLen : Nat := 0
  iSock : Int := 0
  soAddr : String := ""
  mutexIPCSetData : Bool := false
  mutexIPCOperData : Bool := true
  processor : ProcessorPc := .lock
  num : Nat := 0

/-- The receiver, its operators and the caches. `received` and `history` are no data of the
program: all datagrams so far, and the updates made, each with the number of its datagram. -/
structure IpcReceiver where
  operators : List SIPCReqOperator
  iOperatorIndex : Nat := 0
  setTask : Option (SetTaskPc × IpcTask) := none
  caches : NodeCaches := {}
  received : List IpcTask := []
  history : List (Nat × CallStep) := []

/-- What the processing of a datagram depends on. `parse` is `CPSPacket::Parse` on the bytes. -/
structure IpcEnv where
  codes : IpcCodes
  parse : List Char → Option (UInt16 × List SPSReqAttr)
  fresh : Nat → Nat → Char
  pcrfPeerDialectRet : String → String → PeerDialect

section Machine

variable (env : IpcEnv)

/-- The updates that a command makes, one mutex after another. -/
def ipcSteps (uiReqType : UInt16) (req : IpcRequest) : List CallStep :=
  if uiReqType = env.codes.PCRF_CMD_INSERT_SESSION then
    let dialect :=
      env.pcrfPeerDialectRet req.psoCache.coOriginHost.v req.psoCache.coOriginRealm.v
    [.sessions (.insertLocal req.strSessionId req.psoCache req.pstrParentSessionId dialect)]
  else if uiReqType = env.codes.PCRF_CMD_REMOVE_SESSION then
    [.sessions (.removeLocal req.strSessionId), .rules (.removeSessLocal req.strSessionId)]
  else if uiReqType = env.codes.PCRF_CMD_INSERT_SESSRUL then
    match req.pstrRuleName with
    | some ruleName => [.rules (.insertLocal req.strSessionId ruleName)]
    | none => []
  else if uiReqType = env.codes.PCRF_CMD_REMOVE_SESSRUL then
    match req.pstrRuleName with
    | some ruleName => [.rules (.removeRuleLocal req.strSessionId ruleName)]
    | none => []
  else []

/-- They are what the command does. -/
theorem foldl_ipcSteps (caches : NodeCaches) (uiReqType : UInt16) (req : IpcRequest) :
    (ipcSteps env uiReqType req).foldl NodeCaches.perform caches =
      ipcCommand env.codes env.pcrfPeerDialectRet caches uiReqType req := by
  unfold ipcSteps ipcCommand
  split
  · rfl
  split
  · rfl
  split
  · cases req.pstrRuleName <;> rfl
  split
  · cases req.pstrRuleName <;> rfl
  · rfl

/-- The updates of `pcrf_ipc_process_request` for the bytes of a datagram. One that cannot be
parsed makes none, nor does one that stops the process. -/
def IpcEnv.updates (bytes : List Char) : List CallStep :=
  match env.parse bytes with
  | some (uiReqType, attrs) =>
    match ipcReadAttrs env.codes env.fresh attrs with
    | .ok req => ipcSteps env uiReqType req
    | .error _ => []
  | none => []

/-- The bytes that the thread reads. -/
def SIPCReqOperator.bytes (o : SIPCReqOperator) : List Char := o.pmui8Data.take o.stDataLen

/-- `SIPCReqOperator::SetTask`, what it copies. -/
def SIPCReqOperator.copy (o : SIPCReqOperator) (task : IpcTask) (num : Nat) : SIPCReqOperator :=
  { o with
    pmui8Data := task.buf ++ o.pmui8Data.drop task.buf.length
    stDataLen := task.buf.length
    iSock := task.iSock
    soAddr := task.soAddr
    num := num }

/-- `pcrf_ipc_receiver` with a datagram, and `pcrf_ipc_select_request_operator`. Nothing is
received while the receiver is in `SetTask`. -/
def IpcReceiver.receive (s : IpcReceiver) (task : IpcTask) : IpcReceiver :=
  if s.setTask = none ∧ 0 < task.buf.length then
    { s with
      iOperatorIndex :=
        if s.iOperatorIndex < s.operators.length then s.iOperatorIndex
        else s.iOperatorIndex % s.operators.length
      setTask := some (.lock, task)
      received := s.received ++ [task] }
  else s

/-- The next step of `SetTask`, for the operator `m_iOperatorIndex`; it waits for the mutex. -/
def IpcReceiver.advanceSetTask (s : IpcReceiver) : IpcReceiver :=
  match s.setTask, s.operators[s.iOperatorIndex]? with
  | some (.lock, task), some o =>
    if o.mutexIPCSetData then s
    else
      { s with
        operators := s.operators.set s.iOperatorIndex { o with mutexIPCSetData := true }
        setTask := some (.copy, task) }
  | some (.copy, task), some o =>
    { s with
      operators := s.operators.set s.iOperatorIndex (o.copy task (s.received.length - 1))
      setTask := some (.unlock, task) }
  | some (.unlock, _), some o =>
    { s with
      operators := s.operators.set s.iOperatorIndex { o with mutexIPCOperData := false }
      iOperatorIndex := s.iOperatorIndex + 1
      setTask := none }
  | _, _ => s

/-- The next step of `pcrf_ipc_supply_processor` in operator `k`; it waits for the mutex. -/
def IpcReceiver.advanceProcessor (s : IpcReceiver) (k : Nat) : IpcReceiver :=
  match s.operators[k]? with
  | none => s
  | some o =>
    match o.processor with
    | .lock =>
      if o.mutexIPCOperData then s
      else
        { s with
          operators :=
            s.operators.set k { o with mutexIPCOperData := true, processor := .check } }
    | .check =>
      let next : ProcessorPc :=
        if o.stDataLen ≠ 0 then .process (env.updates o.bytes) else .unlock
      { s with operators := s.operators.set k { o with processor := next } }
    | .process (step :: todo) =>
      { s with
        operators := s.operators.set k { o with processor := .process todo }
        caches := s.caches.perform step
        history := s.history ++ [(o.num, step)] }
    | .process [] =>
      { s with operators := s.operators.set k { o with stDataLen := 0, processor := .unlock } }
    | .unlock =>
      { s with
        operators := s.operators.set k { o with mutexIPCSetData := false, processor := .lock } }

/-- A datagram arrives, or one of the threads goes on. -/
inductive IpcReceiverOp where
  | receive (task : IpcTask)
  | setTask
  | processor (k : Nat)

/-- A node with `g_iReqOperCount` operators, started with some caches. -/
def ipcReceiverMachine (reqOperCount : Nat) (caches : NodeCaches) :
    Machine IpcReceiver IpcReceiverOp where
  init := { operators := List.replicate reqOperCount {}, caches }
  step s
    | .receive task => s.receive task
    | .setTask => s.advanceSetTask
    | .processor k => s.advanceProcessor env k

end Machine

end Pcrf
