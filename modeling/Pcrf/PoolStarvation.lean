import Mathlib.Data.List.Zip
import Pcrf.DbPool
import Pcrf.WorkerSlots

/-!
The handlers of requests and the threads that gather for them, with the connections that both
take from the pool.
-/

namespace Pcrf

open Lib

/-! ### The threads of a node -/

/-- Where `app_pcrf_ccr_cb` is: at its request for a connection, in `pcrf_subscriber_data_proc`,
between that and the release of the connection, or back from it. -/
inductive CcrStage where
  | connect
  | gather
  | answer
  | done
  deriving Repr, DecidableEq

/-- A request on its way, with the result code as the lookups of its session leave it. -/
structure CcrRequest where
  uiResultCode : Nat := 2001
  stage : CcrStage := .connect
  deriving Repr, DecidableEq

/-- The sizes of a node: the configured pool and number of threads that gather, the requests that
it handles at a time, and the further threads that use the pool. -/
structure CcrNodeConf where
  iDBPoolSize : Nat
  uiMaxCCRHandlers : Nat
  handlers : Nat
  others : Nat := 0

/-- `g_uiQueueCount`. -/
def CcrNodeConf.uiQueueCount (conf : CcrNodeConf) : Nat := conf.iDBPoolSize / 4

/-- The requests so far, with what each gathers, and the pool. -/
structure CcrNode where
  ccr : CcrCalls := {}
  requests : List CcrRequest := []
  pool : DbPool

/-- Who uses the pool: the thread of a queue of statements, one of the further threads, and of
each request the handler and the thread that gathers for it. -/
inductive PoolUser where
  | queue (j : Nat)
  | other (j : Nat)
  | handler (r : Nat)
  | worker (r : Nat)

/-- The place among the clients of the pool. -/
def CcrNodeConf.place (conf : CcrNodeConf) : PoolUser → Nat
  | .queue j => j
  | .other j => conf.uiQueueCount + j
  | .handler r => conf.uiQueueCount + conf.others + 2 * r
  | .worker r => conf.uiQueueCount + conf.others + 2 * r + 1

inductive CcrNodeOp where
  /-- A request comes. -/
  | arrive (call : GatherCall) (uiResultCode : Nat)
  /-- A step in one of the functions of the pool. -/
  | pool (user : PoolUser) (step : PoolStep)
  /-- The handler goes on to the next stage. -/
  | proceed (r : Nat)
  /-- A step of `pcrf_subscriber_data_proc` or its thread. -/
  | turn (r : Nat) (turn : Turn)

/-- The action set asks for a connection. -/
def GatherCall.asksForConnection (call : GatherCall) : Bool :=
  call.gathered.uiActionSet.operateRule || call.gathered.uiActionSet.updateQuota

/-- An update of a UGW or Ericsson session goes on without a connection. -/
def GatherCall.sparesConnection (call : GatherCall) : Bool :=
  call.soData.uiPeerDialect.isIPCAN && call.soData.i32CCRType == .updateRequest

/-- The client is in none of the functions of the pool. -/
def DbPoolClient.idle (client : DbPoolClient) : Bool := client.call == .none

/-- `pcrf_db_pool_get` has returned. -/
def DbPoolClient.answered (client : DbPoolClient) : Bool := client.idle && client.result.isSome

/-- The connection has been given back, if there was one. -/
def DbPoolClient.settled (client : DbPoolClient) : Bool := client.idle && client.conns.isEmpty

/-- The stage of a handler after its next step. -/
def CcrRequest.next (request : CcrRequest) (call : GatherCall) (g : GatherState)
    (client : DbPoolClient) : CcrStage :=
  match request.stage with
  | .connect =>
    if call.asksForConnection && !client.answered then .connect
    -- without a connection the result code is 3004
    else if call.asksForConnection && client.result != some 0 && !call.sparesConnection then .answer
    else if request.uiResultCode = 2001 then .gather
    else .answer
  | .gather =>
    match g.handler with
    | .done _ | .createFailed _ => .answer
    | _ => .gather
  | .answer => if client.settled then .done else .answer
  | .done => .done

namespace CcrNode

variable (node : CcrNode)

def client (place : Nat) : DbPoolClient := (node.pool.clients[place]?).getD {}

/-- The requests that are being handled. -/
def busy : Nat := node.requests.countP fun request => request.stage != .done

/-- The user is at this step of a function of the pool. -/
def uses (conf : CcrNodeConf) : PoolUser → PoolStep → Bool
  -- the thread of a queue keeps its connection until it is stopped
  | .queue j, .wait | .queue j, .timeout _ =>
    decide (j < conf.uiQueueCount) && (node.client (conf.place (.queue j))).conns.isEmpty
  | .queue j, .trylock => decide (j < conf.uiQueueCount)
  | .queue _, _ => false
  | .other j, _ => decide (j < conf.others)
  | .handler r, step =>
    match node.requests[r]?, node.ccr.calls[r]?, step with
    | some ⟨_, .connect⟩, some (call, _), .wait | some ⟨_, .connect⟩, some (call, _), .timeout _ =>
      call.asksForConnection && (node.client (conf.place (.handler r))).result.isNone
    | some ⟨_, .connect⟩, _, .trylock => true
    | some ⟨_, .answer⟩, _, .unlock _ | some ⟨_, .answer⟩, _, .post => true
    | _, _, _ => false
  | .worker r, step =>
    match node.ccr.calls[r]?, step with
    | some (_, g), .wait | some (_, g), .timeout _ =>
      g.worker == .connect && (node.client (conf.place (.worker r))).result.isNone
    | some (_, g), .trylock => g.worker == .connect
    | some (_, g), .unlock _ | some (_, g), .post => g.worker == .waitCopied
    | none, _ => false

/-- The thread that gathers is not in a function of the pool. -/
def workerFree (conf : CcrNodeConf) (r : Nat) (g : GatherState) : Bool :=
  match g.worker with
  | .connect => (node.client (conf.place (.worker r))).answered
  | .waitCopied => (node.client (conf.place (.worker r))).settled
  | _ => true

/-- The turn is one of a thread that is in `pcrf_subscriber_data_proc`, or of one that gathers. -/
def mayTurn (conf : CcrNodeConf) (r : Nat) (g : GatherState) : Turn → Bool
  | .handler | .timeout | .enterDefQuota =>
    match node.requests[r]? with
    | some ⟨_, .gather⟩ => true
    | _ => false
  | .worker | .enterSessionUsage => node.workerFree conf r g

/-- The call with the connection that the pool has given to its thread, if it has. -/
def provided (conf : CcrNodeConf) (r : Nat) (call : GatherCall) (g : GatherState) : GatherCall :=
  if g.worker = .connect ∧ (node.client (conf.place (.worker r))).answered ∧
      (node.client (conf.place (.worker r))).result ≠ some 0 then
    { call with pcoDBConn := none }
  else call

end CcrNode

/-- A node of this configuration. Without a queue of statements `pcrf_entry` fails before it
registers the handler of the requests. -/
def ccrNodeMachine (conf : CcrNodeConf) : Machine CcrNode CcrNodeOp where
  init := { pool := pcrfDbPoolInit conf.iDBPoolSize (conf.uiQueueCount + conf.others) }
  step node
    | .arrive call uiResultCode =>
      if conf.uiQueueCount ≠ 0 ∧ node.busy < conf.handlers then
        { ccr := (ccrCallsMachine conf.uiMaxCCRHandlers).step node.ccr (.arrive call)
          requests := node.requests ++ [{ uiResultCode }]
          pool := { node.pool with clients := node.pool.clients ++ [{}, {}] } }
      else node
    | .pool user step =>
      if node.uses conf user step then
        { node with pool := node.pool.apply (conf.place user, step) }
      else node
    | .proceed r =>
      match node.requests[r]?, node.ccr.calls[r]? with
      | some request, some (call, g) =>
        let stage := request.next call g (node.client (conf.place (.handler r)))
        { node with requests := node.requests.set r { request with stage } }
      | _, _ => node
    | .turn r turn =>
      match node.ccr.calls[r]? with
      | some (call, g) =>
        if node.mayTurn conf r g turn then
          let calls := node.ccr.calls.set r (node.provided conf r call g, g)
          { node with
            ccr := (ccrCallsMachine conf.uiMaxCCRHandlers).step { node.ccr with calls }
              (.turn r turn) }
        else node
      | none => node

/-! ### Starvation -/

/-- The handler of request `r` waits for its thread, and that waits for a connection. -/
structure CcrNode.Waits (conf : CcrNodeConf) (node : CcrNode) (r : Nat) : Prop where
  handler : ∃ request call g, node.requests[r]? = some request ∧ request.stage = .gather ∧
    node.ccr.calls[r]? = some (call, g) ∧ g.handler = .waitReady ∧ g.dataReady = false ∧
    g.worker = .connect
  worker : (node.client (conf.place (.worker r))).call = .none ∧
    (node.client (conf.place (.worker r))).result = none

/-- Every connection that no thread of a queue has is held by a handler that waits for its
thread, which waits for a connection. -/
def CcrNode.Starved (conf : CcrNodeConf) (node : CcrNode) : Prop :=
  ∀ conn < node.pool.nodes.length,
    (∃ j < conf.uiQueueCount, conn ∈ (node.client (conf.place (.queue j))).conns) ∨
      ∃ r, node.Waits conf r ∧ conn ∈ (node.client (conf.place (.handler r))).conns

/-! ### One client of the pool -/

/-- The client has a connection or looks for one, and not more than one; before its first call has
returned it has none. -/
structure DbPoolClient.Single (client : DbPoolClient) : Prop where
  one : client.conns.length + client.call.scansFrom 0 ≤ 1
  fresh : client.result = none → client.conns = []

/-- Still so when connections and searches have not become more. -/
theorem DbPoolClient.Single.of_le {client next : DbPoolClient} (single : client.Single)
    (le : next.conns.length + next.call.scansFrom 0 ≤
      client.conns.length + client.call.scansFrom 0)
    (fresh : next.result = none → next.conns = []) : next.Single :=
  ⟨Nat.le_trans le single.one, fresh⟩

theorem DbPoolClient.Single.of_answered {client next : DbPoolClient} (single : client.Single)
    (le : next.conns.length + next.call.scansFrom 0 ≤
      client.conns.length + client.call.scansFrom 0)
    (answered : next.result ≠ none) : next.Single :=
  single.of_le le fun unanswered => absurd unanswered answered

/-- What a step of the client at place `i` changes, when a client that has a connection does not
ask for another one. -/
structure ClientStep (pool pool' : DbPool) (i : Nat) (step : PoolStep) : Prop where
  nodes : pool'.nodes.length = pool.nodes.length
  others : ∀ j ≠ i, pool'.clients[j]? = pool.clients[j]?
  own : (pool.clients[i]?.getD {}).Single →
    (step = .wait → (pool.clients[i]?.getD {}).conns = []) → (pool'.clients[i]?.getD {}).Single

section Client

variable {pool : DbPool} {i : Nat} {client : DbPoolClient} {step : PoolStep}

theorem clientStep_refl : ClientStep pool pool i step :=
  ⟨rfl, fun _ _ => rfl, fun single _ => single⟩

theorem clientStep_set (hi : pool.clients[i]? = some client) {sem : Nat} {nodes : List Bool}
    {next : DbPoolClient} (length : nodes.length = pool.nodes.length)
    (own : client.Single → (step = .wait → client.conns = []) → next.Single) :
    ClientStep pool { sem, nodes, clients := pool.clients.set i next } i step where
  nodes := length
  others j ne := List.getElem?_set_ne ne.symm
  own single asks := by
    have inside := (List.getElem?_eq_some_iff.mp hi).1
    rw [hi] at single asks
    rw [List.getElem?_set_self inside]
    exact own single asks

theorem apply_clientStep (pool : DbPool) (i : Nat) (step : PoolStep) :
    ClientStep pool (pool.apply (i, step)) i step := by
  unfold DbPool.apply
  split
  next client hi =>
    simp only at hi ⊢
    unfold DbPool.stepClient
    split
    next call =>
      split
      next => exact clientStep_refl
      next =>
        refine clientStep_set hi rfl fun single asks => ⟨?_, single.fresh⟩
        rw [asks rfl]
        exact Nat.le_refl 1
    next call =>
      exact clientStep_set hi rfl fun single _ =>
        single.of_answered (Nat.le_refl _) (Option.some_ne_none _)
    next node call =>
      split
      next =>
        -- the connection takes the place of the search
        refine clientStep_set hi (List.length_set ..) fun single _ =>
          single.of_answered ?_ (Option.some_ne_none _)
        simp [call, PoolCall.scansFrom]
      next =>
        refine clientStep_set hi rfl fun single _ => single.of_le ?_ single.fresh
        simp [call, PoolCall.scansFrom]
      next =>
        exact clientStep_set hi rfl fun single _ =>
          single.of_answered (Nat.le_add_right _ _) (Option.some_ne_none _)
    next conn call =>
      split
      next =>
        have shorter : (client.conns.erase conn).length ≤ client.conns.length :=
          List.length_erase_le
        refine clientStep_set hi (List.length_set ..) fun single _ => single.of_le ?_ ?_
        · exact Nat.le_trans shorter (Nat.le_add_right _ _)
        · intro unanswered
          rw [single.fresh unanswered]
          rfl
      next => exact clientStep_refl
    next call =>
      exact clientStep_set hi rfl fun single _ =>
        single.of_answered (Nat.le_add_right _ _) (Option.some_ne_none _)
    next => exact clientStep_refl
  next => exact clientStep_refl

end Client

/-! ### Few connections for each -/

/-- The node has such a thread. -/
def CcrNodeConf.Has (conf : CcrNodeConf) : PoolUser → Prop
  | .queue j => j < conf.uiQueueCount
  | .other j => j < conf.others
  | .handler _ | .worker _ => True

/-- The users that can starve the threads that gather. -/
def CcrNodeConf.Keeps (conf : CcrNodeConf) : PoolUser → Prop
  | .queue j => j < conf.uiQueueCount
  | .handler _ => True
  | .other _ | .worker _ => False

/-- Each of them has one connection at most, and there are not more handlers than can be. -/
structure CcrNode.Ok (conf : CcrNodeConf) (node : CcrNode) : Prop where
  nodes : conf.iDBPoolSize ≤ node.pool.nodes.length ∧ 0 < node.pool.nodes.length
  started : conf.uiQueueCount = 0 → node.requests = []
  single : ∀ user, conf.Keeps user → (node.client (conf.place user)).Single
  busy : node.busy ≤ conf.handlers

section Single

variable {conf : CcrNodeConf} {node : CcrNode}

theorem has_of_keeps {user : PoolUser} (keeps : conf.Keeps user) : conf.Has user := by
  cases user with
  | queue j => exact keeps
  | handler r => trivial
  | other j => exact keeps.elim
  | worker r => exact keeps.elim

theorem place_inj {user other : PoolUser} (has : conf.Has user) (hasOther : conf.Has other)
    (same : conf.place user = conf.place other) : user = other := by
  cases user <;> cases other <;>
    simp only [CcrNodeConf.Has, CcrNodeConf.place, PoolUser.queue.injEq, PoolUser.other.injEq,
      PoolUser.handler.injEq, PoolUser.worker.injEq, reduceCtorEq] at * <;> omega

theorem has_of_uses {user : PoolUser} {step : PoolStep} (uses : node.uses conf user step = true) :
    conf.Has user := by
  cases user with
  | queue j => cases step <;> simp_all [CcrNode.uses, CcrNodeConf.Has]
  | other j => simpa [CcrNode.uses, CcrNodeConf.Has] using uses
  | handler r => trivial
  | worker r => trivial

/-- Who keeps its connection does not ask for another one. -/
theorem conns_of_uses {user : PoolUser} (keeps : conf.Keeps user)
    (single : (node.client (conf.place user)).Single)
    (uses : node.uses conf user .wait = true) : (node.client (conf.place user)).conns = [] := by
  cases user with
  | queue j =>
    simp only [CcrNode.uses, Bool.and_eq_true] at uses
    exact List.isEmpty_iff.mp uses.2
  | handler r =>
    simp only [CcrNode.uses] at uses
    split at uses <;> simp_all
    exact single.fresh uses.2
  | other j => exact keeps.elim
  | worker r => exact keeps.elim

theorem nodeOk_init : (ccrNodeMachine conf).init.Ok conf where
  nodes := by
    show conf.iDBPoolSize ≤ (pcrfDbPoolInit _ _).nodes.length ∧
      0 < (pcrfDbPoolInit _ _).nodes.length
    simp only [pcrfDbPoolInit, List.length_replicate, DB_POOL_SIZE_DEF]
    split <;> omega
  started _ := rfl
  single user _ := by
    have fresh : (ccrNodeMachine conf).init.client (conf.place user) = {} := by
      simp only [CcrNode.client, ccrNodeMachine, pcrfDbPoolInit, List.getElem?_replicate]
      split <;> rfl
    rw [fresh]
    exact ⟨Nat.zero_le 1, fun _ => rfl⟩
  busy := Nat.zero_le _

theorem nodeOk_pool (ok : node.Ok conf) (user : PoolUser) (step : PoolStep) :
    ((ccrNodeMachine conf).step node (.pool user step)).Ok conf := by
  simp only [ccrNodeMachine]
  split
  next uses =>
    have client := apply_clientStep node.pool (conf.place user) step
    refine ⟨client.nodes ▸ ok.nodes, ok.started, fun other keeps => ?_, ok.busy⟩
    -- the step is one of the client of this user, and no other client changes
    by_cases same : other = user
    · subst same
      refine client.own (ok.single other keeps) fun wait => ?_
      subst wait
      exact conns_of_uses keeps (ok.single other keeps) uses
    · have apart : conf.place other ≠ conf.place user :=
        fun places => same (place_inj (has_of_keeps keeps) (has_of_uses uses) places)
      simp only [CcrNode.client, client.others _ apart]
      exact ok.single other keeps
  next => exact ok

/-- A client that has not done anything is like none. -/
theorem client_append (node : CcrNode) (n place : Nat) :
    ((node.pool.clients ++ List.replicate n ({} : DbPoolClient))[place]?).getD {} =
      node.client place := by
  rw [List.getElem?_append]
  split
  next => rfl
  next beyond =>
    have gone : node.pool.clients[place]? = none := List.getElem?_eq_none (by omega)
    rw [CcrNode.client, gone, List.getElem?_replicate]
    split <;> rfl

theorem nodeOk_arrive (ok : node.Ok conf) (call : GatherCall) (uiResultCode : Nat) :
    ((ccrNodeMachine conf).step node (.arrive call uiResultCode)).Ok conf := by
  simp only [ccrNodeMachine]
  split
  next free =>
    refine ⟨ok.nodes, fun none => absurd none free.1, fun user keeps => ?_, ?_⟩
    · have single := ok.single user keeps
      rw [← client_append node 2] at single
      exact single
    · simp only [CcrNode.busy, List.countP_append] at free ⊢
      have new : List.countP (fun request : CcrRequest => request.stage != .done)
          [{ uiResultCode }] = 1 := rfl
      omega
  next => exact ok

theorem nodeOk_proceed (ok : node.Ok conf) (r : Nat) :
    ((ccrNodeMachine conf).step node (.proceed r)).Ok conf := by
  simp only [ccrNodeMachine]
  split
  next request call g there _ =>
    refine ⟨ok.nodes, fun none => ?_, ok.single, ?_⟩
    · rw [ok.started none] at there
      exact absurd there (by simp)
    obtain ⟨inside, same⟩ := List.getElem?_eq_some_iff.mp there
    have before := ok.busy
    simp only [CcrNode.busy] at before ⊢
    rw [List.countP_set inside, same]
    -- a request that is done stays so
    by_cases done : request.stage = .done
    · simp only [CcrRequest.next, done]
      simp only [bne_self_eq_false, Bool.false_eq_true, if_false]
      omega
    · have handled : (request.stage != .done) = true := bne_iff_ne.mpr done
      have counted : 0 < node.requests.countP fun request => request.stage != .done :=
        List.countP_pos_iff.mpr ⟨request, List.mem_of_getElem? there, handled⟩
      rw [if_pos handled]
      split <;> omega
  next => exact ok

theorem nodeOk_turn (ok : node.Ok conf) (r : Nat) (turn : Turn) :
    ((ccrNodeMachine conf).step node (.turn r turn)).Ok conf := by
  simp only [ccrNodeMachine]
  split
  next =>
    split
    next => exact ⟨ok.nodes, ok.started, ok.single, ok.busy⟩
    next => exact ok
  next => exact ok

theorem nodeOk_run (ops : List CcrNodeOp) : ((ccrNodeMachine conf).run ops).Ok conf := by
  refine Machine.inv_run _ nodeOk_init (fun node op ok => ?_) ops
  cases op with
  | arrive call uiResultCode => exact nodeOk_arrive ok call uiResultCode
  | pool user step => exact nodeOk_pool ok user step
  | proceed r => exact nodeOk_proceed ok r
  | turn r turn => exact nodeOk_turn ok r turn

/-- Where the threads that gather starve, there are as many queues and handlers as connections. -/
theorem size_le_of_starved (ok : node.Ok conf) (starved : node.Starved conf) :
    conf.iDBPoolSize ≤ conf.uiQueueCount + conf.handlers := by
  let holders := (List.range conf.uiQueueCount).map PoolUser.queue ++
    (node.requests.zipIdx.filter fun entry => entry.1.stage != .done).map
      fun entry => PoolUser.handler entry.2
  -- every connection is with one of these users, and none of them has two
  have covers : ∀ conn < conf.iDBPoolSize, ∃ user ∈ holders,
      conn ∈ (node.client (conf.place user)).conns := by
    intro conn inside
    rcases starved conn (inside.trans_le ok.nodes.1) with ⟨j, hj, mem⟩ | ⟨r, waits, mem⟩
    · exact ⟨.queue j, List.mem_append_left _ (List.mem_map_of_mem (List.mem_range.mpr hj)), mem⟩
    · obtain ⟨request, -, -, there, gathers, -⟩ := waits.handler
      refine ⟨.handler r, List.mem_append_right _ (List.mem_map.mpr ⟨(request, r), ?_, rfl⟩), mem⟩
      rw [List.mem_filter, List.mem_zipIdx_iff_getElem?]
      exact ⟨there, by simp [gathers]⟩
  have short : ∀ user ∈ holders, (node.client (conf.place user)).conns.length ≤ 1 := by
    intro user mem
    have keeps : conf.Keeps user := by
      rcases List.mem_append.mp mem with queue | handler
      · obtain ⟨j, hj, rfl⟩ := List.mem_map.mp queue
        exact List.mem_range.mp hj
      · obtain ⟨_, -, rfl⟩ := List.mem_map.mp handler
        trivial
    exact (Nat.le_add_right _ _).trans (ok.single user keeps).one
  -- the handlers among them are those that are busy
  have count : holders.length = conf.uiQueueCount + node.busy := by
    simp only [holders, List.length_append, List.length_map, List.length_range,
      ← List.countP_eq_length_filter, CcrNode.busy]
    rw [← List.zipIdx_map_fst 0 node.requests, List.countP_map, List.zipIdx_map_fst]
    rfl
  have bound := le_length_of_covers covers short
  have busy := ok.busy
  omega

end Single

/-! ### A run into starvation -/

section Acquire

variable {conf : CcrNodeConf} {node : CcrNode} {user : PoolUser} {j : Nat}

/-- The user finds all connections before `j` taken, and takes `j`. -/
theorem runFrom_scan (tries : ∀ pool, { node with pool }.uses conf user .trylock = true)
    (pool : DbPool) {client : DbPoolClient}
    (there : pool.clients[conf.place user]? = some client) {k d : Nat}
    (scans : client.call = .scanning k) (ahead : k + d = j)
    (taken : ∀ k < j, pool.nodes[k]? = some true) (free : pool.nodes[j]? = some false) :
    (ccrNodeMachine conf).runFrom { node with pool }
        (List.replicate (d + 1) (.pool user .trylock)) =
      { node with
        pool :=
          { pool with
            nodes := pool.nodes.set j true
            clients :=
              pool.clients.set (conf.place user)
                { conns := j :: client.conns, call := .none, result := some 0 } } } := by
  -- by induction on how many connections are tried before `j`
  induction d generalizing k pool client with
  | zero =>
    obtain rfl : k = j := by omega
    simp only [Machine.runFrom, List.replicate, List.foldl, ccrNodeMachine, tries, if_true,
      DbPool.apply, there, DbPool.stepClient, scans, free]
  | succ d ih =>
    have inside := (List.getElem?_eq_some_iff.mp there).1
    have locked := taken k (by omega)
    let next : DbPool :=
      { pool with
        clients := pool.clients.set (conf.place user) { client with call := .scanning (k + 1) } }
    have step : (ccrNodeMachine conf).step { node with pool } (.pool user .trylock) =
        { node with pool := next } := by
      simp only [ccrNodeMachine, tries, if_true, DbPool.apply, there, DbPool.stepClient, scans,
        locked, next]
    have rest := ih next (List.getElem?_set_self inside) rfl (by omega) taken free
    rw [List.replicate_succ]
    show (ccrNodeMachine conf).runFrom ((ccrNodeMachine conf).step _ _) _ = _
    rw [step, rest]
    simp only [next, List.set_set]

/-- The steps of `pcrf_db_pool_get` when the first connection that is free is `j`. -/
def acquireOps (user : PoolUser) (j : Nat) : List CcrNodeOp :=
  .pool user .wait :: List.replicate (j + 1) (.pool user .trylock)

theorem runFrom_acquire (asks : node.uses conf user .wait = true)
    (tries : ∀ pool, { node with pool }.uses conf user .trylock = true)
    (sem : node.pool.sem ≠ 0) (there : node.pool.clients[conf.place user]? = some {})
    (taken : ∀ k < j, node.pool.nodes[k]? = some true) (free : node.pool.nodes[j]? = some false) :
    (ccrNodeMachine conf).runFrom node (acquireOps user j) =
      { node with
        pool :=
          { sem := node.pool.sem - 1
            nodes := node.pool.nodes.set j true
            clients :=
              node.pool.clients.set (conf.place user)
                { conns := [j], call := .none, result := some 0 } } } := by
  have inside := (List.getElem?_eq_some_iff.mp there).1
  let next : DbPool :=
    { node.pool with
      sem := node.pool.sem - 1
      clients := node.pool.clients.set (conf.place user) { call := .scanning 0 } }
  have step : (ccrNodeMachine conf).step node (.pool user .wait) = { node with pool := next } := by
    simp only [ccrNodeMachine, asks, if_true, DbPool.apply, there, DbPool.stepClient, sem, if_false,
      next]
  -- the semaphore is passed, the search starts at the first connection
  have rest := runFrom_scan tries next (List.getElem?_set_self inside) rfl (Nat.zero_add j) taken
    free
  show (ccrNodeMachine conf).runFrom ((ccrNodeMachine conf).step _ _) _ = _
  rw [step, rest]
  simp only [next, List.set_set]

end Acquire

/-- The threads of `q` queues have their connections, and `m` requests have theirs, whose handlers
wait for threads without one. -/
structure Filling (conf : CcrNodeConf) (q m : Nat) (node : CcrNode) : Prop where
  sem : node.pool.sem + (q + m) = conf.iDBPoolSize
  length : node.pool.nodes.length = conf.iDBPoolSize
  taken : ∀ k < q + m, node.pool.nodes[k]? = some true
  free : ∀ k, q + m ≤ k → k < conf.iDBPoolSize → node.pool.nodes[k]? = some false
  clients : node.pool.clients.length = conf.uiQueueCount + conf.others + 2 * m
  ahead : ∀ j, q ≤ j → j < conf.uiQueueCount → node.pool.clients[j]? = some {}
  queues : ∀ j < q, (node.client (conf.place (.queue j))).conns = [j]
  handlers : ∀ r < m, node.Waits conf r ∧ (node.client (conf.place (.handler r))).conns = [q + r]
  requests : node.requests.length = m
  calls : node.ccr.calls.length = m
  count : node.ccr.uiThreadCount = m

section Filling

variable {conf : CcrNodeConf} {node : CcrNode} {q m : Nat}

theorem filling_init (size : conf.iDBPoolSize ≠ 0) :
    Filling conf 0 0 (ccrNodeMachine conf).init where
  sem := by simp [ccrNodeMachine, pcrfDbPoolInit, size]
  length := by simp [ccrNodeMachine, pcrfDbPoolInit, size]
  taken k h := absurd h (Nat.not_lt_zero k)
  free k _ h := by
    simp [ccrNodeMachine, pcrfDbPoolInit, size, h]
  clients := by simp [ccrNodeMachine, pcrfDbPoolInit]
  ahead j _ h := by
    simp [ccrNodeMachine, pcrfDbPoolInit, Nat.lt_add_right conf.others h]
  queues j h := absurd h (Nat.not_lt_zero j)
  handlers r h := absurd h (Nat.not_lt_zero r)
  requests := rfl
  calls := rfl
  count := rfl

/-- What one more connection taken makes of the nodes. -/
theorem nodes_set {nodes : List Bool} {n size : Nat} (taken : ∀ k < n, nodes[k]? = some true)
    (free : ∀ k, n ≤ k → k < size → nodes[k]? = some false) (room : n < size) :
    (∀ k < n + 1, (nodes.set n true)[k]? = some true) ∧
      ∀ k, n + 1 ≤ k → k < size → (nodes.set n true)[k]? = some false := by
  have inside := (List.getElem?_eq_some_iff.mp (free n (Nat.le_refl n) room)).1
  refine ⟨fun k hk => ?_, fun k hk below => ?_⟩
  · rcases Nat.lt_succ_iff_lt_or_eq.mp hk with before | rfl
    · rw [List.getElem?_set_ne (by omega)]
      exact taken k before
    · exact List.getElem?_set_self inside
  · rw [List.getElem?_set_ne (by omega)]
    exact free k (by omega) below

/-- The thread of the next queue takes its connection. -/
theorem filling_queue (filling : Filling conf q 0 node) (h : q < conf.uiQueueCount)
    (room : q < conf.iDBPoolSize) :
    Filling conf (q + 1) 0 ((ccrNodeMachine conf).runFrom node (acquireOps (.queue q) q)) := by
  have there := filling.ahead q (Nat.le_refl q) h
  have sem := filling.sem
  have inside := (List.getElem?_eq_some_iff.mp there).1
  have nodes := nodes_set filling.taken filling.free room
  -- the thread has had no connection before
  have asks : node.uses conf (.queue q) .wait = true := by
    simp [CcrNode.uses, CcrNode.client, CcrNodeConf.place, there, h]
  have acquired := runFrom_acquire (j := q) asks (fun _ => by simp [CcrNode.uses, h]) (by omega)
    there filling.taken (filling.free q (Nat.le_refl q) room)
  rw [acquired]
  constructor
  case sem => simp only; omega
  case length => simpa using filling.length
  case taken => exact nodes.1
  case free => exact nodes.2
  case clients => simpa using filling.clients
  case ahead =>
    intro j hj below
    simp only [CcrNodeConf.place]
    rw [List.getElem?_set_ne (by omega)]
    exact filling.ahead j (by omega) below
  case queues =>
    intro j hj
    simp only [CcrNode.client, CcrNodeConf.place]
    rcases Nat.lt_succ_iff_lt_or_eq.mp hj with before | rfl
    · rw [List.getElem?_set_ne (by omega)]
      exact filling.queues j before
    · rw [List.getElem?_set_self inside]
      rfl
  case handlers => exact fun r hr => absurd hr (Nat.not_lt_zero r)
  case requests => exact filling.requests
  case calls => exact filling.calls
  case count => exact filling.count

/-- A request takes the next connection, and waits for a thread that has to take one as well. -/
def waitOps (j m : Nat) : List CcrNodeOp :=
  .arrive spentCall 2001 :: acquireOps (.handler m) j ++
    [.proceed m, .turn m .handler, .turn m .handler]

/-- The node after that. -/
def CcrNode.waiting (conf : CcrNodeConf) (node : CcrNode) (j : Nat) : CcrNode :=
  let call := { spentCall with uiMaxCCRHandlers := conf.uiMaxCCRHandlers }
  { ccr :=
      { uiThreadCount := node.ccr.uiThreadCount + 1
        calls :=
          node.ccr.calls ++
            [(call,
              { call.start with
                uiThreadCount := node.ccr.uiThreadCount + 1
                handler := .waitReady
                worker := .connect })] }
    requests := node.requests ++ [{ stage := .gather }]
    pool :=
      { sem := node.pool.sem - 1
        nodes := node.pool.nodes.set j true
        clients := node.pool.clients ++ [{ conns := [j], result := some 0 }, {}] } }

/-- What the request of the run gathers. -/
def CcrNodeConf.spentCall (conf : CcrNodeConf) : GatherCall :=
  { Pcrf.spentCall with uiMaxCCRHandlers := conf.uiMaxCCRHandlers }

/-- The node with one more request: where its handler is, what it gathers, and the pool. -/
def CcrNode.joined (conf : CcrNodeConf) (node : CcrNode) (uiThreadCount : Nat) (stage : CcrStage)
    (g : GatherState) (pool : DbPool) : CcrNode where
  ccr := { uiThreadCount, calls := node.ccr.calls ++ [(conf.spentCall, g)] }
  requests := node.requests ++ [{ stage }]
  pool := pool

section Joined

variable {uiThreadCount : Nat} {stage : CcrStage} {g : GatherState} {pool : DbPool}

theorem joined_request (requests : node.requests.length = m) :
    (node.joined conf uiThreadCount stage g pool).requests[m]? = some { stage } := by
  simp [CcrNode.joined, ← requests]

theorem joined_call (calls : node.ccr.calls.length = m) :
    (node.joined conf uiThreadCount stage g pool).ccr.calls[m]? = some (conf.spentCall, g) := by
  simp [CcrNode.joined, ← calls]

/-- The handler has its connection, and calls `pcrf_subscriber_data_proc`. -/
theorem joined_proceed (requests : node.requests.length = m) (calls : node.ccr.calls.length = m)
    {j : Nat} (there : pool.clients[conf.place (.handler m)]? =
      some { conns := [j], result := some 0 }) :
    (ccrNodeMachine conf).step (node.joined conf uiThreadCount .connect g pool) (.proceed m) =
      node.joined conf uiThreadCount .gather g pool := by
  have client : (node.joined conf uiThreadCount .connect g pool).client
      (conf.place (.handler m)) = { conns := [j], result := some 0 } := by
    simp only [CcrNode.client, CcrNode.joined, there, Option.getD_some]
  have next : CcrRequest.next { stage := .connect } conf.spentCall g
      { conns := [j], result := some 0 } = .gather := by
    rfl
  simp only [ccrNodeMachine, joined_request requests, joined_call calls, client, next]
  simp [CcrNode.joined, ← requests]

/-- A turn of its handler before its thread is created. -/
theorem joined_handler (requests : node.requests.length = m) (calls : node.ccr.calls.length = m)
    (created : g.worker ≠ .connect) :
    (ccrNodeMachine conf).step (node.joined conf uiThreadCount .gather g pool) (.turn m .handler) =
      node.joined conf (conf.spentCall.stepHandler { g with uiThreadCount }).uiThreadCount .gather
        (conf.spentCall.stepHandler { g with uiThreadCount }) pool := by
  have called : (node.joined conf uiThreadCount .gather g pool).ccr.calls[m]? =
      some (conf.spentCall, g) := joined_call calls
  have inside := (List.getElem?_eq_some_iff.mp called).1
  have turn : conf.spentCall.machine.step { g with uiThreadCount } .handler =
      conf.spentCall.stepHandler { g with uiThreadCount } := by
    rfl
  simp only [ccrNodeMachine, called, CcrNode.mayTurn, joined_request requests, if_true,
    CcrNode.provided, created, false_and, if_false, ccrCallsMachine,
    List.getElem?_set_self inside, CcrCalls.take, List.set_set]
  simp [CcrNode.joined, ← calls, turn]

end Joined

/-- A request comes. -/
theorem filling_arrive (filling : Filling conf conf.uiQueueCount m node)
    (queues : conf.uiQueueCount ≠ 0) (handlers : m < conf.handlers) :
    (ccrNodeMachine conf).step node (.arrive Pcrf.spentCall 2001) =
      node.joined conf node.ccr.uiThreadCount .connect conf.spentCall.start
        { node.pool with clients := node.pool.clients ++ [{}, {}] } := by
  have busy : node.busy < conf.handlers := by
    have all := List.countP_le_length (p := fun request => request.stage != .done)
      (l := node.requests)
    rw [filling.requests] at all
    exact all.trans_lt handlers
  simp only [ccrNodeMachine, queues, busy, ne_eq, not_false_eq_true, and_self, if_true]
  rfl

/-- Its handler takes the next connection. -/
theorem filling_acquire (filling : Filling conf conf.uiQueueCount m node)
    (room : conf.uiQueueCount + m < conf.iDBPoolSize) :
    (ccrNodeMachine conf).runFrom
        (node.joined conf node.ccr.uiThreadCount .connect conf.spentCall.start
          { node.pool with clients := node.pool.clients ++ [{}, {}] })
        (acquireOps (.handler m) (conf.uiQueueCount + m)) =
      node.joined conf node.ccr.uiThreadCount .connect conf.spentCall.start
        (node.waiting conf (conf.uiQueueCount + m)).pool := by
  have sem := filling.sem
  have place : conf.place (.handler m) = node.pool.clients.length := by
    rw [filling.clients]
    rfl
  let arrived := node.joined conf node.ccr.uiThreadCount .connect conf.spentCall.start
    { node.pool with clients := node.pool.clients ++ [{}, {}] }
  have request : arrived.requests[m]? = some { stage := .connect } :=
    joined_request filling.requests
  have called : arrived.ccr.calls[m]? = some (conf.spentCall, conf.spentCall.start) :=
    joined_call filling.calls
  -- the two clients of the request stand behind all others
  have fresh : arrived.pool.clients[conf.place (.handler m)]? = some {} := by
    simp [arrived, CcrNode.joined, place]
  have asks : arrived.uses conf (.handler m) .wait = true := by
    simp only [CcrNode.uses, request, called, CcrNode.client, fresh]
    rfl
  have tries : ∀ pool, { arrived with pool }.uses conf (.handler m) .trylock = true := by
    intro pool
    simp only [CcrNode.uses, request]
  have acquired := runFrom_acquire asks tries (show node.pool.sem ≠ 0 by omega) fresh
    filling.taken (filling.free _ (Nat.le_refl _) room)
  rw [acquired]
  simp [arrived, CcrNode.joined, CcrNode.waiting, place]

theorem runFrom_waitOps (filling : Filling conf conf.uiQueueCount m node)
    (queues : conf.uiQueueCount ≠ 0) (handlers : m < conf.handlers)
    (threads : m < conf.uiMaxCCRHandlers) (room : conf.uiQueueCount + m < conf.iDBPoolSize) :
    (ccrNodeMachine conf).runFrom node (waitOps (conf.uiQueueCount + m) m) =
      node.waiting conf (conf.uiQueueCount + m) := by
  have there : (node.waiting conf (conf.uiQueueCount + m)).pool.clients[
      conf.place (.handler m)]? = some { conns := [conf.uiQueueCount + m], result := some 0 } := by
    simp [CcrNode.waiting, CcrNodeConf.place, ← filling.clients]
  -- the handler finds a slot, and then creates its thread
  have slot : conf.spentCall.stepHandler
      { conf.spentCall.start with uiThreadCount := node.ccr.uiThreadCount } =
      { conf.spentCall.start with
        uiThreadCount := node.ccr.uiThreadCount + 1
        handler := .launch } := by
    have below : node.ccr.uiThreadCount < conf.uiMaxCCRHandlers := by
      rw [filling.count]
      exact threads
    exact if_pos below
  rw [waitOps, List.cons_append]
  show (ccrNodeMachine conf).runFrom ((ccrNodeMachine conf).step _ _) _ = _
  rw [filling_arrive filling queues handlers, Machine.runFrom_append,
    filling_acquire filling room]
  show (ccrNodeMachine conf).step ((ccrNodeMachine conf).step ((ccrNodeMachine conf).step _ _) _) _
    = _
  rw [joined_proceed filling.requests filling.calls there,
    joined_handler filling.requests filling.calls WorkerPhase.noConfusion, slot,
    joined_handler filling.requests filling.calls WorkerPhase.noConfusion]
  rfl

/-- The clients that were there keep what they have. -/
theorem client_waiting (node : CcrNode) (j : Nat) {place : Nat}
    (inside : place < node.pool.clients.length) :
    (node.waiting conf j).client place = node.client place := by
  simp only [CcrNode.client, CcrNode.waiting]
  rw [List.getElem?_append_left inside]

/-- The requests before it still wait. -/
theorem waits_before (filling : Filling conf conf.uiQueueCount m node) {r : Nat} (before : r < m) :
    (node.waiting conf (conf.uiQueueCount + m)).Waits conf r ∧
      ((node.waiting conf (conf.uiQueueCount + m)).client (conf.place (.handler r))).conns =
        [conf.uiQueueCount + r] := by
  have length := filling.clients
  -- both of its clients stand before the new ones
  have handlerPlace : conf.place (.handler r) < node.pool.clients.length := by
    simp only [CcrNodeConf.place]
    omega
  have workerPlace : conf.place (.worker r) < node.pool.clients.length := by
    simp only [CcrNodeConf.place]
    omega
  obtain ⟨⟨⟨request, call, g, there, gathers, called, waits⟩, worker⟩, conns⟩ :=
    filling.handlers r before
  refine ⟨⟨⟨request, call, g, ?_, gathers, ?_, waits⟩, ?_⟩, ?_⟩
  · simp only [CcrNode.waiting]
    rw [List.getElem?_append_left (filling.requests.symm ▸ before)]
    exact there
  · simp only [CcrNode.waiting]
    rw [List.getElem?_append_left (filling.calls.symm ▸ before)]
    exact called
  · rw [client_waiting node _ workerPlace]
    exact worker
  · rw [client_waiting node _ handlerPlace]
    exact conns

/-- The new one waits. -/
theorem waits_last (filling : Filling conf conf.uiQueueCount m node) :
    (node.waiting conf (conf.uiQueueCount + m)).Waits conf m ∧
      ((node.waiting conf (conf.uiQueueCount + m)).client (conf.place (.handler m))).conns =
        [conf.uiQueueCount + m] := by
  have handlerPlace : conf.place (.handler m) = node.pool.clients.length := filling.clients.symm
  have workerPlace : conf.place (.worker m) = node.pool.clients.length + 1 := by
    rw [filling.clients]
    rfl
  have handler : (node.waiting conf (conf.uiQueueCount + m)).client (conf.place (.handler m)) =
      { conns := [conf.uiQueueCount + m], result := some 0 } := by
    simp [CcrNode.client, CcrNode.waiting, handlerPlace]
  have worker : (node.waiting conf (conf.uiQueueCount + m)).client (conf.place (.worker m)) =
      {} := by
    simp [CcrNode.client, CcrNode.waiting, workerPlace]
  have request : (node.waiting conf (conf.uiQueueCount + m)).requests[m]? =
      some { stage := .gather } := by
    simp [CcrNode.waiting, ← filling.requests]
  -- the handler waits, and its thread has not been given a connection
  obtain ⟨call, g, called, waits⟩ : ∃ call g,
      (node.waiting conf (conf.uiQueueCount + m)).ccr.calls[m]? = some (call, g) ∧
        g.handler = .waitReady ∧ g.dataReady = false ∧ g.worker = .connect := by
    simp only [CcrNode.waiting]
    rw [← filling.calls]
    exact ⟨_, _, List.getElem?_concat_length, rfl, rfl, rfl⟩
  refine ⟨⟨⟨_, call, g, request, rfl, called, waits⟩, ?_⟩, by rw [handler]⟩
  rw [worker]
  exact ⟨rfl, rfl⟩

theorem filling_request (filling : Filling conf conf.uiQueueCount m node)
    (room : conf.uiQueueCount + m < conf.iDBPoolSize) :
    Filling conf conf.uiQueueCount (m + 1) (node.waiting conf (conf.uiQueueCount + m)) := by
  have sem := filling.sem
  have length := filling.clients
  have nodes := nodes_set filling.taken filling.free room
  constructor
  case sem => simp only [CcrNode.waiting]; omega
  case length => simpa [CcrNode.waiting] using filling.length
  case taken => exact nodes.1
  case free => exact nodes.2
  case clients =>
    simp only [CcrNode.waiting, List.length_append, List.length_cons, List.length_nil]
    omega
  case ahead => exact fun j hj below => absurd below (by omega)
  case queues =>
    intro j hj
    rw [client_waiting node _ (by simp only [CcrNodeConf.place]; omega)]
    exact filling.queues j hj
  case handlers =>
    intro r hr
    -- the request is one of those that wait already, or the new one
    rcases Nat.lt_succ_iff_lt_or_eq.mp hr with before | rfl
    · exact waits_before filling before
    · exact waits_last filling
  case requests => simp [CcrNode.waiting, filling.requests]
  case calls => simp [CcrNode.waiting, filling.calls]
  case count => simp [CcrNode.waiting, filling.count]

/-- The connections are handed out one after another. -/
theorem exists_filling_queues (size : conf.iDBPoolSize ≠ 0) (h : q ≤ conf.uiQueueCount) :
    ∃ ops, Filling conf q 0 ((ccrNodeMachine conf).run ops) := by
  induction q with
  | zero => exact ⟨[], filling_init size⟩
  | succ q ih =>
    obtain ⟨ops, filling⟩ := ih (by omega)
    refine ⟨ops ++ acquireOps (.queue q) q, ?_⟩
    rw [Machine.run, Machine.runFrom_append]
    exact filling_queue filling h (h.trans (Nat.div_le_self ..))

theorem exists_filling (queues : conf.uiQueueCount ≠ 0)
    (handlers : m ≤ conf.handlers) (threads : m ≤ conf.uiMaxCCRHandlers)
    (room : conf.uiQueueCount + m ≤ conf.iDBPoolSize) :
    ∃ ops, Filling conf conf.uiQueueCount m ((ccrNodeMachine conf).run ops) := by
  induction m with
  | zero => exact exists_filling_queues (by omega) (Nat.le_refl _)
  | succ m ih =>
    obtain ⟨ops, filling⟩ := ih (by omega) (by omega) (by omega)
    refine ⟨ops ++ waitOps (conf.uiQueueCount + m) m, ?_⟩
    rw [Machine.run, Machine.runFrom_append]
    rw [Machine.run] at filling
    rw [runFrom_waitOps filling queues handlers threads room]
    exact filling_request filling room

/-- When all connections are handed out, the threads starve. -/
theorem starved_of_filling (filling : Filling conf conf.uiQueueCount m node)
    (all : conf.uiQueueCount + m = conf.iDBPoolSize) : node.Starved conf := by
  intro conn inside
  rw [filling.length] at inside
  by_cases queue : conn < conf.uiQueueCount
  · refine .inl ⟨conn, queue, ?_⟩
    rw [filling.queues conn queue]
    exact List.mem_cons_self
  · obtain ⟨waits, conns⟩ := filling.handlers (conn - conf.uiQueueCount) (by omega)
    refine .inr ⟨conn - conf.uiQueueCount, waits, ?_⟩
    rw [conns, List.mem_singleton]
    omega

end Filling

/-- A node that has not started has nobody who could wait. -/
theorem not_starved_of_small {conf : CcrNodeConf} {node : CcrNode} (ok : node.Ok conf)
    (small : conf.uiQueueCount = 0) : ¬ node.Starved conf := by
  intro starved
  rcases starved 0 ok.nodes.2 with ⟨j, hj, -⟩ | ⟨r, waits, -⟩
  · omega
  · obtain ⟨request, _, _, there, -⟩ := waits.handler
    rw [ok.started small] at there
    exact absurd there (by simp)

/-- The threads that gather never starve in any run, if and only if there are more connections
than queues and handlers, or so few that the node does not start. -/
theorem never_starved_iff (conf : CcrNodeConf) (within : conf.handlers ≤ conf.uiMaxCCRHandlers) :
    (∀ ops, ¬ ((ccrNodeMachine conf).run ops).Starved conf) ↔
      conf.uiQueueCount + conf.handlers < conf.iDBPoolSize ∨ conf.iDBPoolSize < 4 := by
  have queues : conf.uiQueueCount = conf.iDBPoolSize / 4 := rfl
  constructor
  · intro never
    -- enough handlers can take all connections that the queues leave
    by_contra h
    obtain ⟨ops, filling⟩ : ∃ ops, Filling conf conf.uiQueueCount
        (conf.iDBPoolSize - conf.uiQueueCount) ((ccrNodeMachine conf).run ops) :=
      exists_filling (by omega) (by omega) (by omega) (by omega)
    exact never ops (starved_of_filling filling (by omega))
  · rintro (many | few) ops starved
    · have := size_le_of_starved (nodeOk_run ops) starved
      omega
    · exact not_starved_of_small (nodeOk_run ops) (by omega) starved

/-- Four connections, two requests at a time. -/
def roomyConf : CcrNodeConf where
  iDBPoolSize := 4
  uiMaxCCRHandlers := 2
  handlers := 2

/-- Both handlers and the thread of the queue have a connection, and one is left. -/
theorem two_handlers_never_starved :
    ¬ ((ccrNodeMachine roomyConf).run
      (acquireOps (.queue 0) 0 ++ waitOps 1 0 ++ waitOps 2 1)).Starved roomyConf :=
  (never_starved_iff roomyConf (Nat.le_refl 2)).mpr (.inl (by decide)) _

/-- Four connections, three requests at a time. -/
def smallConf : CcrNodeConf where
  iDBPoolSize := 4
  uiMaxCCRHandlers := 3
  handlers := 3

/-- The thread of the queue takes the first connection, and a handler each of the others. -/
def starvingOps : List CcrNodeOp :=
  acquireOps (.queue 0) 0 ++ waitOps 1 0 ++ waitOps 2 1 ++ waitOps 3 2

theorem starving_starves :
    smallConf.handlers ≤ smallConf.uiMaxCCRHandlers ∧
      ((ccrNodeMachine smallConf).run starvingOps).Starved smallConf := by
  refine ⟨Nat.le_refl 3, fun conn inside => ?_⟩
  have waits : ∀ r < 3, ((ccrNodeMachine smallConf).run starvingOps).Waits smallConf r := by
    intro r hr
    match r, hr with
    | 0, _ => exact ⟨⟨_, _, _, rfl, rfl, rfl, rfl, rfl, rfl⟩, rfl, rfl⟩
    | 1, _ => exact ⟨⟨_, _, _, rfl, rfl, rfl, rfl, rfl, rfl⟩, rfl, rfl⟩
    | 2, _ => exact ⟨⟨_, _, _, rfl, rfl, rfl, rfl, rfl, rfl⟩, rfl, rfl⟩
  have four : conn < 4 := inside
  match conn, four with
  | 0, _ => exact .inl ⟨0, by decide, by decide⟩
  | 1, _ => exact .inr ⟨0, waits 0 (by decide), by decide⟩
  | 2, _ => exact .inr ⟨1, waits 1 (by decide), by decide⟩
  | 3, _ => exact .inr ⟨2, waits 2 (by decide), by decide⟩

end Pcrf
