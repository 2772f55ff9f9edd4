import Pcrf.MessageFrames
import Pcrf.Refresh

/-!
The loop of a refresh, one session after another: in which state it comes to a session, whether
it comes to it at all, and what the turn of a session can add to the requests that were sent.
-/

namespace Pcrf

open Lib CallM

/-! ### Sending -/

section Sending

variable {rar : List Avp → RarMessage} {x : FdM Unit}

/-- The program sends nothing but the request, and that at most once. -/
def SendsAtMost (rar : List Avp → RarMessage) (x : FdM Unit) : Prop :=
  ∀ s, (exec x s).2.state.sent = s.state.sent ∨
    ∃ avps, (exec x s).2.state.sent = s.state.sent ++ [rar avps]

theorem SendsAtMost.after {y : FdM Unit} (hx : Unsent x) (hy : SendsAtMost rar y) :
    SendsAtMost rar (x >>= fun _ => y) := by
  intro s
  rw [exec_bind]
  have hkeeps := hx.keeps s
  cases h : exec x s with
  | mk result s' =>
    rw [h] at hkeeps
    cases result with
    | none => exact .inl hkeeps
    | some a => exact hkeeps ▸ hy s'

/-- The request to a session, with these AVPs. -/
def rarOf (sessInfo : SSessionInfo) (sessionReleaseCause : Option UInt32) (avps : List Avp) :
    RarMessage where
  sessionId := sessInfo.strSessionId
  destHost := sessInfo.coOriginHost.v
  destRealm := sessInfo.coOriginRealm.v
  avps := avps
  sessionReleaseCause := sessionReleaseCause

theorem sendRar_sendsAtMost (sessInfo : SSessionInfo) (cause : Option UInt32) :
    SendsAtMost (rarOf sessInfo cause) (sendRar sessInfo cause) := by
  intro s
  simp only [sendRar, exec_bind]
  cases h : exec (σ := AnswerState) call s with
  | mk result s' =>
    obtain ⟨-, rfl⟩ := Prod.mk.inj h
    cases result with
    | none => exact .inl rfl
    | some => exact .inr ⟨_, rfl⟩

theorem unsent_newRar : Unsent newRar := by
  have hclear : Unsent (update fun st : AnswerState => { st with answer := [] }) :=
    Frame.update fun _ => rfl
  exact (Frame.call.bind fun _ => hclear).bind fun _ => Frame.calls 19

theorem frame_putGiven {α τ : Type} {p : AnswerState → τ} {put : α → FdM Unit}
    (h : ∀ a, Frame p (put a)) (given : Option α) : Frame p (putGiven given put) := by
  cases given with
  | none => exact Frame.pure ()
  | some a => exact h a

/-- What is put into a request besides its triggers. -/
theorem frame_putRules {τ : Type} {p : AnswerState → τ} (hp : Overlooks p)
    (sessInfo : SSessionInfo) (reqInfo : Option SRequestInfo)
    (vectActiveRules listAbonRules : Option (List SDBAbonRule)) :
    Frame p (do
      putGiven vectActiveRules fun vectActive => putMade (pcrfMakeCRR sessInfo vectActive)
      tolerate (pcrfMakeUMI false sessInfo.mapMonitInfo)
      putGiven listAbonRules fun rules => putMade (pcrfMakeCRI sessInfo reqInfo rules)) :=
  (frame_putGiven (fun _ => frame_putCRR hp ..) _).bind fun _ =>
    (frame_makeUMI hp ..).tolerate.bind fun _ =>
      frame_putGiven (fun _ => frame_putCRI hp ..) _

theorem unsent_putChanges (sessInfo : SSessionInfo) (reqInfo : Option SRequestInfo)
    (vectActiveRules listAbonRules : Option (List SDBAbonRule))
    (listTrigger : Option (List Int32)) :
    Unsent (putChanges sessInfo reqInfo vectActiveRules listAbonRules listTrigger) :=
  (frame_putGiven unsent_putTriggers _).bind fun _ => frame_putRules overlooks_sent ..

theorem gxRar_sendsAtMost (sessInfo : SSessionInfo) (reqInfo : Option SRequestInfo)
    (vectActiveRules listAbonRules : Option (List SDBAbonRule))
    (listTrigger : Option (List Int32)) :
    SendsAtMost (rarOf sessInfo none)
      (pcrfClientGxRar sessInfo reqInfo vectActiveRules listAbonRules listTrigger) :=
  .after unsent_newRar (.after (unsent_putChanges ..) (sendRar_sendsAtMost _ _))

theorem gxRarWSRCause_sendsAtMost (sessInfo : SSessionInfo) :
    SendsAtMost (rarOf sessInfo (some 0)) (pcrfClientGxRarWSRCause sessInfo) :=
  .after unsent_newRar (.after (Frame.calls 3) (sendRar_sendsAtMost _ _))

/-- Sending a request does not make later calls fail. -/
theorem frame_sendRar (sessInfo : SSessionInfo) (cause : Option UInt32) :
    Frame (fun _ : AnswerState => ()) (sendRar sessInfo cause) :=
  Frame.call.bind fun _ => Frame.update fun _ => rfl

theorem gxRar_succeeds (sessInfo : SSessionInfo) (reqInfo : Option SRequestInfo)
    (vectActiveRules listAbonRules : Option (List SDBAbonRule))
    (listTrigger : Option (List Int32)) :
    Frame (fun _ => ())
      (pcrfClientGxRar sessInfo reqInfo vectActiveRules listAbonRules listTrigger) :=
  unsent_newRar.forget.bind fun _ => (unsent_putChanges ..).forget.bind fun _ =>
    frame_sendRar ..

theorem gxRarWSRCause_succeeds (sessInfo : SSessionInfo) :
    Frame (fun _ => ()) (pcrfClientGxRarWSRCause sessInfo) :=
  unsent_newRar.forget.bind fun _ => (Frame.calls 3).bind fun _ => frame_sendRar ..

theorem exec_newRar {s : Answering AnswerState} (hs : s.AllSucceed) :
    exec newRar s = (some (), { s with state := { s.state with answer := [] } }) := by
  rw [newRar, exec_bind_some (exec_newMessage hs)]
  exact exec_calls 19 hs

theorem exec_sendRar (sessInfo : SSessionInfo) (cause : Option UInt32)
    {s : Answering AnswerState} (hs : s.AllSucceed) :
    exec (sendRar sessInfo cause) s = (some (),
      { s with
        state :=
          { s.state with
            sent := s.state.sent ++ [rarOf sessInfo cause s.state.answer] } }) := by
  simp only [sendRar, exec_bind_some (exec_call hs), exec_update]
  rfl

theorem exec_gxRarWSRCause (sessInfo : SSessionInfo) {s : Answering AnswerState}
    (hs : s.AllSucceed) :
    (exec (pcrfClientGxRarWSRCause sessInfo) s).2.state.sent =
      s.state.sent ++ [rarOf sessInfo (some 0) []] := by
  have hclear : Answering.AllSucceed { s with state := { s.state with answer := [] } } := hs
  rw [pcrfClientGxRarWSRCause, exec_bind_some (exec_newRar hs),
    exec_bind_some (exec_calls 3 hclear), exec_sendRar _ _ hclear]

end Sending

/-! ### Turns -/

section Turns

variable {env : RefreshEnv} {refQueue : SRefQueue} {s : Answering AnswerState}

/-- The session does not end the loop: its peer is connected, or nothing is known of it. -/
def RefreshEnv.Passes (env : RefreshEnv) (sessionId : String) : Prop :=
  ∀ msg, env.loadSession sessionId = some msg →
    pcrfPeerIsConnected env.vectPeerList msg.soSessInfo ≠ 0

theorem refreshSession_code (env : RefreshEnv) (refQueue : SRefQueue) (k : Nat)
    (sessionId : String) (st : RefreshState) :
    (env.refreshSession refQueue k sessionId st).1 = 0 ↔ env.Passes sessionId := by
  simp only [RefreshEnv.refreshSession, RefreshEnv.Passes]
  cases env.loadSession sessionId with
  | none => simp
  | some msg =>
    by_cases hconn : pcrfPeerIsConnected env.vectPeerList msg.soSessInfo = 0
    · simp [hconn, enotconn]
    · -- whatever is sent, or is not, the code stays 0
      simp only [hconn, if_false, Option.some.injEq, forall_eq']
      refine iff_of_true ?_ hconn
      split
      · rfl
      · split <;> rfl

theorem refreshSessions_cons (k : Nat) (sessionId : String) (rest : List String)
    (st : RefreshState) :
    env.refreshSessions refQueue k (sessionId :: rest) st =
      if (env.refreshSession refQueue k sessionId st).1 = 0 then
        env.refreshSessions refQueue (k + 1) rest
          (env.refreshSession refQueue k sessionId st).2
      else env.refreshSession refQueue k sessionId st := by
  simp only [RefreshEnv.refreshSessions]
  split
  next h => simp [h]
  next code st' hcode h => simp [h, show code ≠ 0 from fun hzero => hcode hzero]

theorem refreshSessions_append (k : Nat) (pre post : List String) (st : RefreshState) :
    env.refreshSessions refQueue k (pre ++ post) st =
      if (env.refreshSessions refQueue k pre st).1 = 0 then
        env.refreshSessions refQueue (k + pre.length) post
          (env.refreshSessions refQueue k pre st).2
      else env.refreshSessions refQueue k pre st := by
  induction pre generalizing k st with
  | nil => rfl
  | cons sessionId pre ih =>
    simp only [List.cons_append, refreshSessions_cons, List.length_cons]
    by_cases hcode : (env.refreshSession refQueue k sessionId st).1 = 0
    · -- the places of the rest are counted on
      simp only [hcode, if_true, ih]
      rw [Nat.add_assoc, Nat.add_comm 1]
    · simp [hcode]

/-- The loop comes to the end of the list when every session of it passes. -/
theorem refreshSessions_code (k : Nat) (list : List String) (st : RefreshState) :
    (env.refreshSessions refQueue k list st).1 = 0 ↔ ∀ sessionId ∈ list, env.Passes sessionId := by
  induction list generalizing k st with
  | nil => simp [RefreshEnv.refreshSessions]
  | cons sessionId list ih =>
    rw [List.forall_mem_cons, ← refreshSession_code env refQueue k sessionId st,
      refreshSessions_cons]
    by_cases hcode : (env.refreshSession refQueue k sessionId st).1 = 0
    · simp [hcode, ih]
    · simp [hcode]

/-- The state in which the loop comes to the session at place `k` of the list, or in which it
has ended before. -/
def RefreshEnv.turn (env : RefreshEnv) (refQueue : SRefQueue) (list : List String)
    (s : Answering AnswerState) (k : Nat) : RefreshState :=
  (env.refreshSessions refQueue 0 (list.take k) { answering := s }).2

/-- A refresh is the turns of all its sessions. -/
theorem operateRefqueueRecord_turn {list : List String}
    (hlist : pcrfClientDbLoadSessionList env refQueue = (0, list)) :
    (pcrfClientOperateRefqueueRecord env refQueue s).2 =
      env.turn refQueue list s list.length := by
  simp [pcrfClientOperateRefqueueRecord, hlist, RefreshEnv.turn]

/-- The turn of a session, unless one before it has ended the loop. -/
theorem turn_succ (env : RefreshEnv) (refQueue : SRefQueue) (s : Answering AnswerState)
    {list : List String} {k : Nat} {sessionId : String}
    (hk : list[k]? = some sessionId) [Decidable (∀ earlier ∈ list.take k, env.Passes earlier)] :
    env.turn refQueue list s (k + 1) =
      if ∀ earlier ∈ list.take k, env.Passes earlier then
        (env.refreshSession refQueue k sessionId (env.turn refQueue list s k)).2
      else env.turn refQueue list s k := by
  have hlt : k < list.length := (List.getElem?_eq_some_iff.mp hk).1
  have htake : list.take (k + 1) = list.take k ++ [sessionId] := by
    rw [List.take_add_one, hk]
    rfl
  simp only [RefreshEnv.turn, htake, refreshSessions_append, refreshSessions_code,
    refreshSessions_cons, List.length_take_of_le hlt.le, Nat.zero_add]
  split
  · split <;> rfl
  · rfl

/-- The requests that were sent before. -/
def RefreshState.sent (st : RefreshState) : List RarMessage := st.answering.state.sent

theorem RefreshState.send_sent {st : RefreshState} {request : FdM Unit}
    {rar : List Avp → RarMessage} (h : SendsAtMost rar request) :
    (st.send request).sent = st.sent ∨ ∃ avps, (st.send request).sent = st.sent ++ [rar avps] :=
  h st.answering

/-- What the turn of a session adds to the requests that were sent: nothing, a request to
release the session, or one that changes its rules. -/
inductive TurnSends (env : RefreshEnv) (refQueue : SRefQueue) (k : Nat) (sessionId : String) :
    List RarMessage → Prop
  | nothing : TurnSends env refQueue k sessionId []
  | release {msg : SMsgDataForDB} (avps : List Avp) : env.loadSession sessionId = some msg →
      pcrfPeerIsConnected env.vectPeerList msg.soSessInfo ≠ 0 →
      refQueue.abortsSession = true ∨ env.abonRules k msg = [] →
      TurnSends env refQueue k sessionId [rarOf msg.soSessInfo (some 0) avps]
  | change (sessInfo : SSessionInfo) (avps : List Avp) :
      TurnSends env refQueue k sessionId [rarOf sessInfo none avps]

theorem refreshSession_sends (env : RefreshEnv) (refQueue : SRefQueue) (k : Nat)
    (sessionId : String) (st : RefreshState) :
    ∃ new, (env.refreshSession refQueue k sessionId st).2.sent = st.sent ++ new ∧
      TurnSends env refQueue k sessionId new := by
  have nothing {st' : RefreshState} (h : st'.sent = st.sent) : ∃ new,
      st'.sent = st.sent ++ new ∧ TurnSends env refQueue k sessionId new :=
    ⟨[], by rw [h, List.append_nil], .nothing⟩
  simp only [RefreshEnv.refreshSession]
  cases hmsg : env.loadSession sessionId with
  | none => exact nothing rfl
  | some msg =>
    -- a release is sent to a peer that is connected, unless a call fails while it is built
    have release (hconn : pcrfPeerIsConnected env.vectPeerList msg.soSessInfo ≠ 0)
        (h : refQueue.abortsSession = true ∨ env.abonRules k msg = []) : ∃ new,
        (st.send (pcrfClientGxRarWSRCause msg.soSessInfo)).sent = st.sent ++ new ∧
          TurnSends env refQueue k sessionId new := by
      rcases RefreshState.send_sent (gxRarWSRCause_sendsAtMost msg.soSessInfo) with
        hsent | ⟨avps, hsent⟩
      · exact nothing hsent
      · exact ⟨_, hsent, .release avps hmsg hconn h⟩
    have change {st' : RefreshState} {sessInfo : SSessionInfo}
        (h : st'.sent = st.sent ∨ ∃ avps, st'.sent = st.sent ++ [rarOf sessInfo none avps]) :
        ∃ new, st'.sent = st.sent ++ new ∧ TurnSends env refQueue k sessionId new := by
      rcases h with hsent | ⟨avps, hsent⟩
      · exact nothing hsent
      · exact ⟨_, hsent, .change sessInfo avps⟩
    -- no connected peer; an abort; no rule left; a change of the rules
    dsimp only
    split
    next => exact nothing rfl
    next hconn =>
      split
      next habort => exact release hconn (.inl habort)
      next =>
        split
        next hempty => exact release hconn (.inr (List.isEmpty_iff.mp hempty))
        next =>
          simp only [RefreshEnv.updateRules]
          split
          · exact change (RefreshState.send_sent (gxRar_sendsAtMost _ _ _ _ _))
          · exact nothing rfl

theorem refreshSession_succeeds (k : Nat) (sessionId : String) {st : RefreshState}
    (hs : st.answering.AllSucceed) :
    (env.refreshSession refQueue k sessionId st).2.answering.AllSucceed := by
  have send {request : FdM Unit} (h : Frame (fun _ => ()) request) (bMKInstalled : Bool) :
      (RefreshState.send { st with bMKInstalled } request).answering.AllSucceed :=
    h.tolerate.succeeds _ hs
  simp only [RefreshEnv.refreshSession]
  split
  · exact hs
  next msg _ =>
    split
    · exact hs
    · split
      · exact send (gxRarWSRCause_succeeds _) st.bMKInstalled
      · split
        · exact send (gxRarWSRCause_succeeds _) st.bMKInstalled
        · simp only [RefreshEnv.updateRules]
          split
          · exact send (gxRar_succeeds ..) _
          · exact hs

theorem refreshSessions_spec (k : Nat) (list : List String) (st : RefreshState) :
    st.sent <+: (env.refreshSessions refQueue k list st).2.sent ∧
      (st.answering.AllSucceed →
        (env.refreshSessions refQueue k list st).2.answering.AllSucceed) := by
  induction list generalizing k st with
  | nil => exact ⟨List.prefix_rfl, id⟩
  | cons sessionId list ih =>
    obtain ⟨new, hsent, -⟩ := refreshSession_sends env refQueue k sessionId st
    have hstep := List.prefix_append st.sent new
    rw [← hsent] at hstep
    rw [refreshSessions_cons]
    split
    · obtain ⟨hmore, hsucceeds⟩ := ih (k + 1) (env.refreshSession refQueue k sessionId st).2
      exact ⟨hstep.trans hmore, fun hs => hsucceeds (refreshSession_succeeds k sessionId hs)⟩
    · exact ⟨hstep, refreshSession_succeeds k sessionId⟩

theorem turn_succeeds (list : List String) (hs : s.AllSucceed) (k : Nat) :
    (env.turn refQueue list s k).answering.AllSucceed :=
  (refreshSessions_spec 0 (list.take k) { answering := s }).2 hs

/-- Later turns only add to what was sent. -/
theorem turn_sent_prefix (list : List String) {k n : Nat} (h : k ≤ n) :
    (env.turn refQueue list s k).sent <+: (env.turn refQueue list s n).sent := by
  -- the sessions up to `n` are those up to `k` and then some more
  obtain ⟨j, rfl⟩ := Nat.exists_eq_add_of_le h
  simp only [RefreshEnv.turn, List.take_add, refreshSessions_append]
  split
  · exact (refreshSessions_spec ..).1
  · exact List.prefix_rfl

end Turns

end Pcrf
