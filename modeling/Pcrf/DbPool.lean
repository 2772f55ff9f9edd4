import Pcrf.Lib.Machine
import Pcrf.Lib.Tally

/-!
`pcrf_db_pool.cpp`: the list of connections, each with its mutex, and the semaphore that counts
the free ones. A client takes one atomic step at a time.
-/

namespace Pcrf

open Lib

/-- Where a client is: in neither function, at a node of the list in `pcrf_db_pool_get`, or in
`pcrf_db_pool_rel` between the mutex and the semaphore. -/
inductive PoolCall where
  | none
  | scanning (node : Nat)
  | posting
  deriving Repr, DecidableEq

/-- A client: the connections it has obtained and not released, the call it is in, and what its
last call returned. -/
structure DbPoolClient where
  conns : List Nat := []
  call : PoolCall := .none
  result : Option Int := none
  deriving Repr, DecidableEq

/-- `g_tDBPoolSem`, the nodes from `g_psoDBPoolHead` on, each with whether its mutex is locked,
and the clients. A connection is named by the place of its node in the list. -/
structure DbPool where
  sem : Nat
  nodes : List Bool
  clients : List DbPoolClient
  deriving Repr, DecidableEq

def DB_POOL_SIZE_DEF : Nat := 1

/-- `pcrf_db_pool_init`, with the clients that will use the pool. -/
def pcrfDbPoolInit (iDBPoolSize clients : Nat) : DbPool :=
  let poolSize := if iDBPoolSize ≠ 0 then iDBPoolSize else DB_POOL_SIZE_DEF
  { sem := poolSize
    nodes := List.replicate poolSize false
    clients := List.replicate clients {} }

/-- The atomic steps: the wait for the semaphore goes through, or ends with `errno`; one
`pthread_mutex_trylock`; `pthread_mutex_unlock` of a connection; `sem_post`. -/
inductive PoolStep where
  | wait
  | timeout (errno : Nat)
  | trylock
  | unlock (conn : Nat)
  | post
  deriving Repr, DecidableEq

/-- A step of the client at place `i`. A client releases only what it has obtained, and a step
that it cannot take changes nothing. -/
def DbPool.stepClient (pool : DbPool) (i : Nat) (client : DbPoolClient) (step : PoolStep) :
    DbPool :=
  let put (client : DbPoolClient) : List DbPoolClient := pool.clients.set i client
  match step, client.call with
  | .wait, .none =>
    if pool.sem = 0 then pool
    else { pool with sem := pool.sem - 1, clients := put { client with call := .scanning 0 } }
  | .timeout errno, .none => { pool with clients := put { client with result := some errno } }
  | .trylock, .scanning node =>
    match pool.nodes[node]? with
    | some false =>
      { pool with
        nodes := pool.nodes.set node true
        clients := put { conns := node :: client.conns, call := .none, result := some 0 } }
    | some true => { pool with clients := put { client with call := .scanning (node + 1) } }
    -- the end of the list: "unexpected error: free db connection not found"
    | none => { pool with clients := put { client with call := .none, result := some (-2222) } }
  | .unlock conn, .none =>
    if conn ∈ client.conns then
      { pool with
        nodes := pool.nodes.set conn false
        clients := put { client with conns := client.conns.erase conn, call := .posting } }
    else pool
  | .post, .posting =>
    { pool with
      sem := pool.sem + 1
      clients := put { client with call := .none, result := some 0 } }
  | _, _ => pool

def DbPool.apply (pool : DbPool) (op : Nat × PoolStep) : DbPool :=
  match pool.clients[op.1]? with
  | some client => pool.stepClient op.1 client op.2
  | none => pool

def dbPoolMachine (iDBPoolSize clients : Nat) : Machine DbPool (Nat × PoolStep) where
  init := pcrfDbPoolInit iDBPoolSize clients
  step := DbPool.apply

/-! ### Who holds what -/

/-- 1 inside `pcrf_db_pool_get` at a node from `q` on. -/
def PoolCall.scansFrom (q : Nat) : PoolCall → Nat
  | .scanning node => if q ≤ node then 1 else 0
  | _ => 0

/-- 1 before `sem_post`. -/
def PoolCall.posts : PoolCall → Nat
  | .posting => 1
  | _ => 0

/-- 1 for a node that is not locked. -/
def freeNode (locked : Bool) : Nat := if locked then 0 else 1

namespace DbPool

/-- The nodes from `q` on that are not locked. -/
def freeFrom (pool : DbPool) (q : Nat) : Nat := tally freeNode (pool.nodes.drop q)

/-- The clients looking for a node, from `q` on. -/
def scansFrom (pool : DbPool) (q : Nat) : Nat :=
  tally (fun client => client.call.scansFrom q) pool.clients

/-- The clients that have unlocked a node and not yet posted. -/
def posts (pool : DbPool) : Nat := tally (fun client => client.call.posts) pool.clients

/-- How often the connection is held. -/
def holders (pool : DbPool) (conn : Nat) : Nat :=
  tally (fun client => client.conns.count conn) pool.clients

/-- The semaphore and the clients that look for a node or are about to post account for the nodes
that are free; a node is locked for exactly one holder; and from every place on there are at
least as many free nodes as clients looking for one. -/
structure Balanced (pool : DbPool) : Prop where
  permits : pool.sem + pool.scansFrom 0 + pool.posts = pool.freeFrom 0
  held : ∀ conn, pool.holders conn = if pool.nodes[conn]? = some true then 1 else 0
  ahead : ∀ q, pool.scansFrom q ≤ pool.freeFrom q
  found : ∀ client ∈ pool.clients, client.result ≠ some (-2222)

end DbPool

theorem init_balanced (iDBPoolSize clients : Nat) :
    (pcrfDbPoolInit iDBPoolSize clients).Balanced where
  permits := by
    simp [pcrfDbPoolInit, DbPool.scansFrom, DbPool.freeFrom, DbPool.posts, tally_replicate,
      PoolCall.scansFrom, PoolCall.posts, freeNode]
  held conn := by
    simp [pcrfDbPoolInit, DbPool.holders, tally_replicate, List.getElem?_replicate]
  ahead q := by
    simp [pcrfDbPoolInit, DbPool.scansFrom, tally_replicate, PoolCall.scansFrom]
  found client mem := by
    rw [pcrfDbPoolInit, List.mem_replicate] at mem
    simp [mem.2]

/-! ### The steps -/

section Steps

variable {pool : DbPool} {i : Nat} {client : DbPoolClient}

theorem scansFrom_anti {q r : Nat} (h : q ≤ r) (call : PoolCall) :
    call.scansFrom r ≤ call.scansFrom q := by
  cases call with
  | scanning node =>
    simp only [PoolCall.scansFrom]
    split
    · refine Nat.le_of_eq ?_
      rw [if_pos (by omega)]
    · exact Nat.zero_le _
  | none => exact Nat.le_refl _
  | posting => exact Nat.le_refl _

theorem scansFrom_set (hi : pool.clients[i]? = some client) (sem : Nat) (nodes : List Bool)
    (next : DbPoolClient) (q : Nat) :
    (DbPool.mk sem nodes (pool.clients.set i next)).scansFrom q + client.call.scansFrom q =
      pool.scansFrom q + next.call.scansFrom q :=
  tally_set _ hi next

theorem posts_set (hi : pool.clients[i]? = some client) (sem : Nat) (nodes : List Bool)
    (next : DbPoolClient) :
    (DbPool.mk sem nodes (pool.clients.set i next)).posts + client.call.posts =
      pool.posts + next.call.posts :=
  tally_set _ hi next

theorem holders_set (hi : pool.clients[i]? = some client) (sem : Nat) (nodes : List Bool)
    (next : DbPoolClient) (conn : Nat) :
    (DbPool.mk sem nodes (pool.clients.set i next)).holders conn + client.conns.count conn =
      pool.holders conn + next.conns.count conn :=
  tally_set _ hi next

theorem freeFrom_set {node : Nat} {locked : Bool} (hnode : pool.nodes[node]? = some locked)
    (sem : Nat) (clients : List DbPoolClient) (next : Bool) (q : Nat) :
    (DbPool.mk sem (pool.nodes.set node next) clients).freeFrom q +
        (if q ≤ node then freeNode locked else 0) =
      pool.freeFrom q + (if q ≤ node then freeNode next else 0) :=
  tally_drop_set freeNode hnode next q

theorem found_set (balanced : pool.Balanced) {next : DbPoolClient}
    (h : next.result ≠ some (-2222)) : ∀ other ∈ pool.clients.set i next,
      other.result ≠ some (-2222) := by
  intro other mem
  rcases List.mem_or_eq_of_mem_set mem with old | rfl
  · exact balanced.found other old
  · exact h

/-- The accounts stay balanced when a step exchanges permits, searches, posts and free nodes one
for one. -/
theorem permits_set (balanced : pool.Balanced) (hi : pool.clients[i]? = some client) {sem : Nat}
    {nodes : List Bool} {next : DbPoolClient}
    (exchange : sem + next.call.scansFrom 0 + next.call.posts + pool.freeFrom 0 =
      pool.sem + client.call.scansFrom 0 + client.call.posts +
        (DbPool.mk sem nodes (pool.clients.set i next)).freeFrom 0) :
    sem + (DbPool.mk sem nodes (pool.clients.set i next)).scansFrom 0 +
        (DbPool.mk sem nodes (pool.clients.set i next)).posts =
      (DbPool.mk sem nodes (pool.clients.set i next)).freeFrom 0 := by
  have permits := balanced.permits
  have scans := scansFrom_set hi sem nodes next 0
  have posts := posts_set hi sem nodes next
  omega

/-- A client that keeps its connections holds them as before. -/
theorem held_set (balanced : pool.Balanced) (hi : pool.clients[i]? = some client) (sem : Nat)
    {next : DbPoolClient} (same : next.conns = client.conns) (conn : Nat) :
    (DbPool.mk sem pool.nodes (pool.clients.set i next)).holders conn =
      if pool.nodes[conn]? = some true then 1 else 0 := by
  have holders := holders_set hi sem pool.nodes next conn
  rw [same] at holders
  exact (Nat.add_right_cancel holders).trans (balanced.held conn)

/-- The semaphore lets one more client look for a node: there is a free one for it. -/
theorem wait_balanced (balanced : pool.Balanced) (hi : pool.clients[i]? = some client)
    (call : client.call = .none) (sem : pool.sem ≠ 0) :
    DbPool.Balanced { pool with
      sem := pool.sem - 1
      clients := pool.clients.set i { client with call := .scanning 0 } } := by
  have permits := balanced.permits
  refine ⟨permits_set balanced hi ?_, held_set balanced hi _ rfl, fun q => ?_,
    found_set balanced (balanced.found client (List.mem_of_getElem? hi))⟩
  · -- the permit becomes a client that looks for a node
    simp only [call, PoolCall.scansFrom, PoolCall.posts, Nat.le_refl, if_true, DbPool.freeFrom]
    omega
  · -- with it there was one free node more than clients, which is at 0 or later
    have scans := scansFrom_set hi (pool.sem - 1) pool.nodes { client with call := .scanning 0 } q
    have ahead := balanced.ahead q
    simp only [call, PoolCall.scansFrom, DbPool.freeFrom] at *
    rcases Nat.eq_zero_or_pos q with rfl | positive
    · simp only [Nat.le_refl, if_true] at scans
      omega
    · rw [if_neg (by omega)] at scans
      omega

/-- A node that is not locked is taken by the client that looked at it. -/
theorem lock_balanced (balanced : pool.Balanced) (hi : pool.clients[i]? = some client)
    {node : Nat} (call : client.call = .scanning node) (hnode : pool.nodes[node]? = some false) :
    DbPool.Balanced { pool with
      nodes := pool.nodes.set node true
      clients := pool.clients.set i
        { conns := node :: client.conns, call := .none, result := some 0 } } := by
  have scans := scansFrom_set hi pool.sem (pool.nodes.set node true)
    { conns := node :: client.conns, call := .none, result := some 0 }
  have free := freeFrom_set hnode pool.sem (pool.clients.set i
    { conns := node :: client.conns, call := .none, result := some 0 }) true
  simp only [call, PoolCall.scansFrom, freeNode, Bool.false_eq_true, if_false, if_true,
    ite_self] at scans free
  refine ⟨permits_set balanced hi ?_, fun conn => ?_, fun q => ?_, found_set balanced (by simp)⟩
  · -- one client less looks, one node less is free
    have free := free 0
    simp only [call, PoolCall.scansFrom, PoolCall.posts, Nat.zero_le, if_true] at free ⊢
    omega
  · have holders := holders_set hi pool.sem (pool.nodes.set node true)
      { conns := node :: client.conns, call := .none, result := some 0 } conn
    have held := balanced.held conn
    have inside : node < pool.nodes.length := (List.getElem?_eq_some_iff.mp hnode).1
    simp only [List.count_cons, List.getElem?_set, beq_iff_eq] at *
    -- the one holder of the node that it locks: nobody held it, for it was free
    by_cases same : node = conn
    · subst same
      simp only [hnode, inside, if_true, Option.some.injEq, Bool.false_eq_true, if_false] at *
      omega
    · simp only [same, if_false] at *
      omega
  · -- up to the node both sides lose one, behind it neither does
    have ahead := balanced.ahead q
    have scans := scans q
    have free := free q
    omega

/-- Seen from the next place, the client at `node` is one less. -/
theorem scansFrom_succ {node : Nat} (hi : pool.clients[i]? = some client)
    (call : client.call = .scanning node) :
    pool.scansFrom (node + 1) + 1 ≤ pool.scansFrom node := by
  have here := scansFrom_set hi pool.sem pool.nodes { client with call := .none } node
  have next := scansFrom_set hi pool.sem pool.nodes { client with call := .none } (node + 1)
  have fewer : ∀ clients : List DbPoolClient, tally (fun c => c.call.scansFrom (node + 1)) clients ≤
      tally (fun c => c.call.scansFrom node) clients :=
    fun _ => tally_mono fun c : DbPoolClient => scansFrom_anti (Nat.le_succ node) c.call
  simp only [call, PoolCall.scansFrom, Nat.le_refl, if_true, Nat.not_succ_le_self, if_false]
    at here next
  have rest := fewer (pool.clients.set i { client with call := .none })
  simp only [DbPool.scansFrom] at *
  omega

/-- A locked node counts for nothing. -/
theorem freeFrom_succ {node : Nat} (hnode : pool.nodes[node]? = some true) :
    pool.freeFrom (node + 1) = pool.freeFrom node := by
  obtain ⟨inside, at_⟩ := List.getElem?_eq_some_iff.mp hnode
  rw [DbPool.freeFrom, DbPool.freeFrom, List.drop_eq_getElem_cons inside, tally_cons, at_]
  simp [freeNode]

/-- A client goes past a locked node, and so are the free nodes it counts on. -/
theorem pass_balanced (balanced : pool.Balanced) (hi : pool.clients[i]? = some client)
    {node : Nat} (call : client.call = .scanning node) (hnode : pool.nodes[node]? = some true) :
    DbPool.Balanced { pool with
      clients := pool.clients.set i { client with call := .scanning (node + 1) } } := by
  have scans := scansFrom_set hi pool.sem pool.nodes { client with call := .scanning (node + 1) }
  simp only [call, PoolCall.scansFrom] at scans
  refine ⟨permits_set balanced hi ?_, held_set balanced hi _ rfl, fun q => ?_,
    found_set balanced (balanced.found client (List.mem_of_getElem? hi))⟩
  · simp only [call, PoolCall.scansFrom, PoolCall.posts, Nat.zero_le, if_true, DbPool.freeFrom]
  · have scans := scans q
    change _ ≤ pool.freeFrom q
    rcases Nat.lt_or_ge node q with past | before
    · rw [if_neg (by omega)] at scans
      by_cases next : q = node + 1
      · -- seen from the next place, this client is new; the locked node does not count
        have ahead := balanced.ahead node
        have others := scansFrom_succ hi call
        have free := freeFrom_succ hnode
        subst next
        simp only [Nat.le_refl, if_true] at scans
        omega
      · have ahead := balanced.ahead q
        rw [if_neg (by omega)] at scans
        omega
    · -- up to the node the client has been counted before
      have ahead := balanced.ahead q
      rw [if_pos (by omega), if_pos (by omega)] at scans
      omega

/-- A connection that is held can be released: its node is locked. -/
theorem unlock_balanced (balanced : pool.Balanced) (hi : pool.clients[i]? = some client)
    (call : client.call = .none) {conn : Nat} (mem : conn ∈ client.conns) :
    DbPool.Balanced { pool with
      nodes := pool.nodes.set conn false
      clients := pool.clients.set i
        { client with conns := client.conns.erase conn, call := .posting } } := by
  have holds := le_tally (fun client : DbPoolClient => client.conns.count conn)
    (List.mem_of_getElem? hi)
  have positive : 0 < client.conns.count conn := List.count_pos_iff.mpr mem
  -- somebody holds the connection, so its node is locked
  have hnode : pool.nodes[conn]? = some true := by
    refine Classical.byContradiction fun unlocked => ?_
    have held := balanced.held conn
    rw [if_neg unlocked] at held
    simp only [DbPool.holders] at held
    omega
  have scans := scansFrom_set hi pool.sem (pool.nodes.set conn false)
    { client with conns := client.conns.erase conn, call := .posting }
  have free := freeFrom_set hnode pool.sem (pool.clients.set i
    { client with conns := client.conns.erase conn, call := .posting }) false
  simp only [call, PoolCall.scansFrom, freeNode, Bool.false_eq_true, if_false, if_true,
    ite_self] at scans free
  refine ⟨permits_set balanced hi ?_, fun other => ?_, fun q => ?_,
    found_set balanced (balanced.found client (List.mem_of_getElem? hi))⟩
  · -- the free node waits for `sem_post`
    have free := free 0
    simp only [call, PoolCall.scansFrom, PoolCall.posts, Nat.zero_le, if_true] at free ⊢
    omega
  · have holders := holders_set hi pool.sem (pool.nodes.set conn false)
      { client with conns := client.conns.erase conn, call := .posting } other
    have held := balanced.held other
    have inside : conn < pool.nodes.length := (List.getElem?_eq_some_iff.mp hnode).1
    simp only [List.getElem?_set] at *
    by_cases same : conn = other
    · subst same
      rw [List.count_erase_self] at holders
      simp only [hnode, inside, if_true, Option.some.injEq, Bool.false_eq_true, if_false] at *
      omega
    · rw [List.count_erase_of_ne (Ne.symm same)] at holders
      simp only [same, if_false] at *
      omega
  · have ahead := balanced.ahead q
    have scans := scans q
    have free := free q
    omega

theorem post_balanced (balanced : pool.Balanced) (hi : pool.clients[i]? = some client)
    (call : client.call = .posting) :
    DbPool.Balanced { pool with
      sem := pool.sem + 1
      clients := pool.clients.set i { client with call := .none, result := some 0 } } := by
  have scans := scansFrom_set hi (pool.sem + 1) pool.nodes
    { client with call := .none, result := some 0 }
  simp only [call, PoolCall.scansFrom] at scans
  refine ⟨permits_set balanced hi ?_, held_set balanced hi _ rfl, fun q => ?_,
    found_set balanced (by simp)⟩
  · -- what was about to be posted is a permit
    simp only [call, PoolCall.scansFrom, PoolCall.posts, DbPool.freeFrom]
  · have ahead := balanced.ahead q
    have scans := scans q
    change _ ≤ pool.freeFrom q
    omega

theorem timeout_balanced (balanced : pool.Balanced) (hi : pool.clients[i]? = some client)
    (errno : Nat) :
    DbPool.Balanced { pool with
      clients := pool.clients.set i { client with result := some errno } } := by
  refine ⟨permits_set balanced hi rfl, held_set balanced hi _ rfl, fun q => ?_,
    found_set balanced (by simp)⟩
  have scans := scansFrom_set hi pool.sem pool.nodes { client with result := some errno } q
  have ahead := balanced.ahead q
  change _ ≤ pool.freeFrom q
  simp only at *
  omega

end Steps

/-! ### Every interleaving -/

theorem free_ahead {pool : DbPool} (balanced : pool.Balanced) {i : Nat} {client : DbPoolClient}
    (hi : pool.clients[i]? = some client) {node : Nat} (call : client.call = .scanning node) :
    ∃ free, node ≤ free ∧ pool.nodes[free]? = some false := by
  have one := le_tally (fun c : DbPoolClient => c.call.scansFrom node) (List.mem_of_getElem? hi)
  have ahead := balanced.ahead node
  simp only [call, PoolCall.scansFrom, Nat.le_refl, if_true] at one
  have positive : 0 < pool.freeFrom node := Nat.lt_of_lt_of_le one ahead
  -- the client itself is counted, so some node from its place on is free
  obtain ⟨locked, mem, weight⟩ := exists_of_tally_pos positive
  obtain ⟨k, hk⟩ := List.getElem?_of_mem mem
  rw [List.getElem?_drop] at hk
  cases locked with
  | false => exact ⟨node + k, Nat.le_add_right .., hk⟩
  | true => simp [freeNode] at weight

theorem holders_unique {pool : DbPool} (balanced : pool.Balanced) {i j : Nat}
    {client other : DbPoolClient} (hi : pool.clients[i]? = some client)
    (hj : pool.clients[j]? = some other) (ne : i ≠ j) {conn : Nat} (mem : conn ∈ client.conns) :
    conn ∉ other.conns := by
  intro twice
  have two := add_le_tally (fun client : DbPoolClient => client.conns.count conn) hi hj ne
  have held := balanced.held conn
  have first : 0 < client.conns.count conn := List.count_pos_iff.mpr mem
  have second : 0 < other.conns.count conn := List.count_pos_iff.mpr twice
  simp only [DbPool.holders] at held
  split at held <;> omega

theorem apply_balanced (pool : DbPool) (op : Nat × PoolStep) (balanced : pool.Balanced) :
    (pool.apply op).Balanced := by
  obtain ⟨i, step⟩ := op
  simp only [DbPool.apply]
  cases hi : pool.clients[i]? with
  | none => exact balanced
  | some client =>
    simp only [DbPool.stepClient]
    split
    · next call =>
      split
      · exact balanced
      · next sem => exact wait_balanced balanced hi call sem
    · exact timeout_balanced balanced hi _
    · next node call =>
      split
      · next hnode => exact lock_balanced balanced hi call hnode
      · next hnode => exact pass_balanced balanced hi call hnode
      · next hnode =>
        -- some node from here on is free, so this is not the end of the list
        obtain ⟨free, ahead, hfree⟩ := free_ahead balanced hi call
        have inside := (List.getElem?_eq_some_iff.mp hfree).1
        rw [List.getElem?_eq_none_iff] at hnode
        omega
    · next conn call =>
      split
      · next mem => exact unlock_balanced balanced hi call mem
      · exact balanced
    · next call => exact post_balanced balanced hi call
    · exact balanced

theorem run_balanced (iDBPoolSize clients : Nat) (ops : List (Nat × PoolStep)) :
    ((dbPoolMachine iDBPoolSize clients).run ops).Balanced :=
  (dbPoolMachine iDBPoolSize clients).inv_run (init_balanced iDBPoolSize clients)
    apply_balanced ops

/-- However the steps of the clients interleave, a client that has passed the semaphore has a
free node at or after the one it is at, so no call ends with -2222; and no two clients hold the
same connection. -/
theorem pool_never_exhausted (iDBPoolSize clients : Nat) (ops : List (Nat × PoolStep)) :
    let pool := (dbPoolMachine iDBPoolSize clients).run ops
    (∀ (i : Nat) (client : DbPoolClient) (node : Nat), pool.clients[i]? = some client →
      client.call = .scanning node → ∃ free, node ≤ free ∧ pool.nodes[free]? = some false) ∧
    (∀ client ∈ pool.clients, client.result ≠ some (-2222)) ∧
    (∀ (i j : Nat) (client other : DbPoolClient), pool.clients[i]? = some client →
      pool.clients[j]? = some other → i ≠ j → ∀ conn ∈ client.conns, conn ∉ other.conns) := by
  have balanced := run_balanced iDBPoolSize clients ops
  refine ⟨fun i client node hi call => free_ahead balanced hi call, balanced.found, ?_⟩
  intro i j client other hi hj ne conn mem
  exact holders_unique balanced hi hj ne mem

end Pcrf
