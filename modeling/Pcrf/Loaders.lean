import Pcrf.RefreshCycle
import Pcrf.IpcPacket
import Pcrf.DefaultRules
import Pcrf.SessionLookup

/-!
The loaders: the queue of refreshes, the other nodes, the peers and the Procera
sessions of a subscriber. Each appends the rows it reads to its list, and reads again
when the connection comes back after an exception.
-/

namespace Pcrf

open Lib

/-! ### The nodes -/

/-- A row of `ps.node`. -/
structure NodeRow where
  coHost : OtlValue String
  coReal : OtlValue String
  coIPAddress : OtlValue String
  coPort : OtlValue UInt32
  deriving Repr, DecidableEq

/-- `SNode` with its names; `none` is a null pointer. -/
structure NamedNode extends SNode where
  diamid : Option String
  diamidLen : Nat
  diamrlm : Option String
  diamrlmLen : Nat
  deriving Repr, DecidableEq

/-- `g_vectNodeList` and what else is learnt of the nodes. -/
structure NodeTable where
  vectNodeList : List NamedNode
  strLocalIPAddress : String
  uiLocalPort : UInt16
  iNodeCount : Nat
  deriving Repr, DecidableEq

/-- The identity and the realm of this server. -/
structure DiamConfig where
  cnfDiamid : String
  cnfDiamrlm : String

/-- The row is that of this server. -/
def DiamConfig.isHome (config : DiamConfig) (row : NodeRow) : Bool :=
  !row.coHost.isNull && row.coHost.v == config.cnfDiamid &&
    (!row.coReal.isNull && row.coReal.v == config.cnfDiamrlm)

/-- The node of a row. Its names are copied up to the first null, with the length of the whole. -/
def NodeRow.node (row : NodeRow) : NamedNode where
  diamid := row.coHost.toOption.map cStr
  diamidLen := row.coHost.toOption.elim 0 String.length
  diamrlm := row.coReal.toOption.map cStr
  diamrlmLen := row.coReal.toOption.elim 0 String.length
  addr := row.coIPAddress.toOption.getD ""
  port := (row.coPort.toOption.getD 0).toUInt16

/-- A row of the loop. That of this server sets the local address and is no node. -/
def NodeTable.loadRow (config : DiamConfig) (table : NodeTable) (row : NodeRow) : NodeTable :=
  if config.isHome row then
    { table with
      strLocalIPAddress := row.coIPAddress.toOption.getD table.strLocalIPAddress
      uiLocalPort := (row.coPort.toOption.map UInt32.toUInt16).getD table.uiLocalPort }
  else { table with vectNodeList := table.vectNodeList ++ [row.node] }

def initNodeAttempt (config : DiamConfig) (reads : Nat → List NodeRow × Option Failure) (k : Nat) :
    Attempt NodeTable :=
  fun table =>
    let read := (reads k).1.foldl (NodeTable.loadRow config) table
    match (reads k).2 with
    | none => ({ read with iNodeCount := read.vectNodeList.length }, none)
    | some failure => (read, some failure)

/-- `socket` is the error that opening the socket meets, `pool` tells whether a connection is
given. A failure to read the table is not returned. -/
def pcrfIpcInitNode (config : DiamConfig) (socket : Option Int) (pool : Bool)
    (reads : Nat → List NodeRow × Option Failure) (table : NodeTable) : Int × NodeTable :=
  match socket with
  | some errno => (errno, table)
  | none =>
    if pool then (0, (Attempt.repeatOnce (initNodeAttempt config reads) table).1)
    else (-1, table)

/-! ### The peers -/

/-- A row of `ps.peer`. -/
structure PeerRow where
  coHostName : OtlValue String
  coRealm : OtlValue String
  coDialect : OtlValue UInt32
  deriving Repr, DecidableEq

/-- The dialect that a protocol number stands for. -/
def PeerDialect.ofProtocol (protocolId : UInt32) : PeerDialect :=
  if protocolId = 0 then gxUndef
  else if protocolId = 1 then gxHwUgw
  else if protocolId = 2 then gxCiscoSce
  else if protocolId = 3 then gxProcera
  else if protocolId = 4 then gxEricssn
  else if protocolId = 10 then rxIms
  else unsupported protocolId.toNat

def PeerRow.peer (row : PeerRow) : SPeerInfo where
  coHostName := if row.coHostName.isNull then .of "" else row.coHostName
  coHostReal := if row.coRealm.isNull then .of "" else row.coRealm
  uiPeerDialect := if row.coDialect.isNull then .gxUndef else .ofProtocol row.coDialect.v

/-- The reads are those of the connection, when there is one. -/
def appPcrfLoadPeerInfo (pcoDBConn : Option (Nat → List PeerRow × Option Failure))
    (vectPeerList : List SPeerInfo) : Int × List SPeerInfo :=
  match pcoDBConn with
  | none => (EINVAL, vectPeerList)
  | some reads =>
    let outcome :=
      Attempt.repeatOnce (Attempt.appendRows (fun row => [PeerRow.peer row]) reads) vectPeerList
    let iRetVal :=
      match outcome.2 with
      | none => 0
      | some failure => if failure.code ≠ 0 then failure.code else -1
    (iRetVal, outcome.1)

/-! ### The Procera sessions -/

/-- A row of the sessions that have the address of a given one. -/
structure ProceraRow where
  strSessionId : String
  coOriginHost : OtlValue String
  coOriginRealm : OtlValue String
  deriving Repr, DecidableEq

def ProceraRow.sessInfo (row : ProceraRow) : SSessionInfo :=
  { uiPeerDialect := .gxProcera
    strSessionId := row.strSessionId
    coOriginHost := row.coOriginHost
    coOriginRealm := row.coOriginRealm }

/-- `pool` has the reads of the connection given, for a session id and a dialect. -/
def pcrfProceraDbLoadSessList
    (pool : Option (String → PeerDialect → Nat → List ProceraRow × Option Failure))
    (strIPCANSessionId : String) (vectSessList : List SSessionInfo) : Int × List SSessionInfo :=
  match pool with
  | none => (EINVAL, vectSessList)
  | some select =>
    let outcome :=
      Attempt.repeatOnce
        (Attempt.appendRows (fun row => [ProceraRow.sessInfo row])
          (select strIPCANSessionId .gxProcera))
        vectSessList
    (Attempt.code outcome, outcome.1)

/-! ### The lists after a failure -/

inductive Loader where
  | refQueue
  | nodes
  | peers
  | procera
  deriving Repr, DecidableEq

/-- What the tables hold. The Procera sessions are those for a session id. -/
structure LoadedTables where
  refQueue : List SRefQueue
  nodes : List NodeRow
  peers : List PeerRow
  procera : String → List ProceraRow

section

variable (config : DiamConfig) (tables : LoadedTables) (sessionId : String)

open Attempt (failingAfter reading)

/-- Every loader makes its list as without the failure, which comes after some rows of its
table. -/
structure LoadedOnce (failsAfter : Loader → Nat) : Prop where
  refQueue : ∀ code deleteRow listQueue,
    (pcrfClientDbLoadRefqueueData
        (some ⟨failingAfter tables.refQueue (failsAfter .refQueue) code, deleteRow⟩)
        listQueue).2 =
      (pcrfClientDbLoadRefqueueData (some ⟨reading tables.refQueue, deleteRow⟩) listQueue).2
  nodes : ∀ code table,
    (pcrfIpcInitNode config none true (failingAfter tables.nodes (failsAfter .nodes) code)
        table).2.vectNodeList =
      (pcrfIpcInitNode config none true (reading tables.nodes) table).2.vectNodeList
  peers : ∀ code vectPeerList,
    (appPcrfLoadPeerInfo (some (failingAfter tables.peers (failsAfter .peers) code))
        vectPeerList).2 =
      (appPcrfLoadPeerInfo (some (reading tables.peers)) vectPeerList).2
  procera : ∀ code vectSessList,
    (pcrfProceraDbLoadSessList
        (some fun id _ => failingAfter (tables.procera id) (failsAfter .procera) code) sessionId
        vectSessList).2 =
      (pcrfProceraDbLoadSessList (some fun id _ => reading (tables.procera id)) sessionId
        vectSessList).2

/-- No row that goes into a list had been read when the failure came. -/
structure NothingAppended (failsAfter : Loader → Nat) : Prop where
  refQueue : tables.refQueue.take (failsAfter .refQueue) = []
  nodes : ∀ row ∈ tables.nodes.take (failsAfter .nodes), config.isHome row = true
  peers : tables.peers.take (failsAfter .peers) = []
  procera : (tables.procera sessionId).take (failsAfter .procera) = []

end

/-- The nodes that a row gives. -/
def nodesOfRow (config : DiamConfig) (row : NodeRow) : List NamedNode :=
  if config.isHome row then [] else [row.node]

theorem nodesOfRow_eq_nil {config : DiamConfig} {row : NodeRow} :
    nodesOfRow config row = [] ↔ config.isHome row = true := by
  unfold nodesOfRow
  split <;> simp_all

theorem vectNodeList_foldl (config : DiamConfig) (rows : List NodeRow) (table : NodeTable) :
    (rows.foldl (NodeTable.loadRow config) table).vectNodeList =
      table.vectNodeList ++ rows.flatMap (nodesOfRow config) := by
  induction rows generalizing table with
  | nil => simp
  | cons row rows ih =>
    rw [List.foldl_cons, ih, List.flatMap_cons, ← List.append_assoc]
    congr 1
    by_cases home : config.isHome row
    · simp [NodeTable.loadRow, nodesOfRow, home]
    · simp [NodeTable.loadRow, nodesOfRow, home]

/-- Of the nodes an attempt sees only the list that it appends to. -/
theorem initNode_vectNodeList (config : DiamConfig)
    (reads : Nat → List NodeRow × Option Failure) (table : NodeTable) :
    (pcrfIpcInitNode config none true reads table).2.vectNodeList =
      (Attempt.repeatOnce (Attempt.appendRows (nodesOfRow config) reads)
        table.vectNodeList).1 := by
  have part : ∀ k table, Attempt.appendRows (nodesOfRow config) reads k table.vectNodeList =
      ((initNodeAttempt config reads k table).1.vectNodeList,
        (initNodeAttempt config reads k table).2) := by
    intro k table
    unfold initNodeAttempt Attempt.appendRows
    cases hfailure : (reads k).2 with
    | none => simp [vectNodeList_foldl]
    | some failure => simp [vectNodeList_foldl]
  rw [Attempt.repeatOnce_part part]
  rfl

/-- The queue is read by attempts that append each row. -/
theorem loadRefqueue_listQueue (reads : Nat → List SRefQueue × Option Failure)
    (deleteRow : Nat → Nat → Bool × Option Failure) (listQueue : List SRefQueue) :
    (pcrfClientDbLoadRefqueueData (some ⟨reads, deleteRow⟩) listQueue).2 =
      (Attempt.repeatOnce (Attempt.appendRows (fun row => [row]) reads) listQueue).1 := by
  have same : RefQueueDb.loadAttempt ⟨reads, deleteRow⟩ =
      Attempt.appendRows (fun row => [row]) reads := by
    funext k list
    simp only [RefQueueDb.loadAttempt, Attempt.appendRows, List.flatMap_singleton']
  rw [← same]
  rfl

theorem forall_mem_eq_nil_iff {α β : Type} {rows : List α} {item : α → β} :
    (∀ row ∈ rows, [item row] = []) ↔ rows = [] := by
  constructor
  · intro h
    exact List.eq_nil_iff_forall_not_mem.mpr fun row hrow => List.cons_ne_nil _ _ (h row hrow)
  · intro h row hrow
    exact absurd (h ▸ hrow) List.not_mem_nil

theorem loadedOnce_iff (config : DiamConfig) (tables : LoadedTables) (sessionId : String)
    (failsAfter : Loader → Nat) :
    LoadedOnce config tables sessionId failsAfter ↔
      NothingAppended config tables sessionId failsAfter := by
  constructor
  · intro once
    refine ⟨?_, ?_, ?_, ?_⟩
    · have h := once.refQueue 0 (fun _ _ => (false, none)) []
      rw [loadRefqueue_listQueue, loadRefqueue_listQueue] at h
      exact forall_mem_eq_nil_iff.mp ((Attempt.appendRows_once_iff _ _ _ _ _).mp h)
    · have h := once.nodes 0 ⟨[], "", 0, 0⟩
      rw [initNode_vectNodeList, initNode_vectNodeList] at h
      intro row hrow
      exact nodesOfRow_eq_nil.mp ((Attempt.appendRows_once_iff _ _ _ _ _).mp h row hrow)
    · exact forall_mem_eq_nil_iff.mp
        ((Attempt.appendRows_once_iff _ _ _ _ _).mp (once.peers 0 []))
    · exact forall_mem_eq_nil_iff.mp
        ((Attempt.appendRows_once_iff _ _ _ _ _).mp (once.procera 0 []))
  · intro nothing
    refine ⟨?_, ?_, ?_, ?_⟩
    · intro code deleteRow listQueue
      rw [loadRefqueue_listQueue, loadRefqueue_listQueue]
      exact (Attempt.appendRows_once_iff _ _ _ _ _).mpr
        (forall_mem_eq_nil_iff.mpr nothing.refQueue)
    · intro code table
      rw [initNode_vectNodeList, initNode_vectNodeList]
      exact (Attempt.appendRows_once_iff _ _ _ _ _).mpr
        fun row hrow => nodesOfRow_eq_nil.mpr (nothing.nodes row hrow)
    · intro code vectPeerList
      exact (Attempt.appendRows_once_iff _ _ _ _ _).mpr
        (forall_mem_eq_nil_iff.mpr nothing.peers)
    · intro code vectSessList
      exact (Attempt.appendRows_once_iff _ _ _ _ _).mpr
        (forall_mem_eq_nil_iff.mpr nothing.procera)

/-- One peer, read twice. -/
theorem not_loadedOnce_peers :
    ¬ ∀ config tables sessionId failsAfter,
      LoadedOnce config tables sessionId failsAfter := by
  intro once
  have h := (once ⟨"pcrf", "realm"⟩
    ⟨[], [], [⟨.of "gw", .of "realm", .of 1⟩], fun _ => []⟩ "" fun _ => 1).peers 3113 []
  exact absurd h (by decide)

end Pcrf
