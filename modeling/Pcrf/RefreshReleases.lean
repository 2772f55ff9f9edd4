import Pcrf.RefreshTurns

/-!
Which sessions a refresh asks to release: those whose subscriber has no rules, and those for
which the list of rules could not be obtained.
-/

namespace Pcrf

open Lib CallM

namespace RefreshEnv

variable (env : RefreshEnv) (k : Nat) (msg : SMsgDataForDB)

/-- The database has returned the list of rules for the session at place `k`. -/
def ListReturned : Prop :=
  ∃ db, env.pcoDBConn = some db ∧ StreamOutcome.returned (db.subRules k msg.subRulesArgs) = true

/-- Of the names that the database has delivered for it, none is in the cache of rules. -/
def NoneKnown : Prop :=
  ∀ name ∈ deliveredNames (env.pcoDBConn.map (·.subRules k)) msg.subRulesArgs,
    pcrfRuleCacheGetRuleInfo env.ruleCache name = none

end RefreshEnv

section

variable {env : RefreshEnv} {refQueue : SRefQueue}

/-- In the turn of every session that the entry selects, a request to release it is sent only
if the entry asks for that, or the database has returned a list without a known rule. -/
def ReleasesOnlyUnruled (env : RefreshEnv) (refQueue : SRefQueue) (s : Answering AnswerState) :
    Prop :=
  ∀ list, pcrfClientDbLoadSessionList env refQueue = (0, list) →
    ∀ k sessionId, list[k]? = some sessionId →
      ∀ new, (env.turn refQueue list s (k + 1)).sent = (env.turn refQueue list s k).sent ++ new →
        (∃ rar ∈ new, rar.sessionReleaseCause ≠ none) →
          refQueue.abortsSession = true ∨
            ∃ msg, env.loadSession sessionId = some msg ∧ env.ListReturned k msg ∧
              env.NoneKnown k msg

/-- For every session that the loop comes to and whose peer is connected, the entry asks for the
release, the database returns the list of rules, or it has delivered a known name all the same. -/
def ListsObtained (env : RefreshEnv) (refQueue : SRefQueue) : Prop :=
  ∀ list, pcrfClientDbLoadSessionList env refQueue = (0, list) →
    ∀ k sessionId msg, list[k]? = some sessionId →
      (∀ earlier ∈ list.take k, env.Passes earlier) → env.loadSession sessionId = some msg →
        pcrfPeerIsConnected env.vectPeerList msg.soSessInfo ≠ 0 →
          refQueue.abortsSession = true ∨ env.ListReturned k msg ∨ ¬ env.NoneKnown k msg

theorem abonRules_eq_nil_iff (k : Nat) (msg : SMsgDataForDB) :
    env.abonRules k msg = [] ↔ env.NoneKnown k msg :=
  createAbonRuleList_eq_nil_iff ..

/-- A session without a list of rules is released, whatever the reason. -/
theorem refreshSession_release {k : Nat} {sessionId : String} {msg : SMsgDataForDB}
    (hmsg : env.loadSession sessionId = some msg)
    (hconn : pcrfPeerIsConnected env.vectPeerList msg.soSessInfo ≠ 0)
    (hstay : refQueue.abortsSession = false) (hnone : env.NoneKnown k msg) {st : RefreshState}
    (hs : st.answering.AllSucceed) :
    (env.refreshSession refQueue k sessionId st).2.sent =
      st.sent ++ [rarOf msg.soSessInfo (some 0) []] := by
  have hempty := (abonRules_eq_nil_iff k msg).mpr hnone
  simp only [RefreshEnv.refreshSession, hmsg, hconn, hstay, hempty, if_false,
    Bool.false_eq_true, List.isEmpty_nil, if_true]
  exact exec_gxRarWSRCause msg.soSessInfo hs

/-- The turn of such a session, when no call fails. -/
theorem turn_release {list : List String} {k : Nat} {sessionId : String} {msg : SMsgDataForDB}
    (hk : list[k]? = some sessionId) (hreached : ∀ earlier ∈ list.take k, env.Passes earlier)
    (hmsg : env.loadSession sessionId = some msg)
    (hconn : pcrfPeerIsConnected env.vectPeerList msg.soSessInfo ≠ 0)
    (hstay : refQueue.abortsSession = false) (hnone : env.NoneKnown k msg)
    {s : Answering AnswerState} (hs : s.AllSucceed) :
    (env.turn refQueue list s (k + 1)).sent =
      (env.turn refQueue list s k).sent ++ [rarOf msg.soSessInfo (some 0) []] := by
  classical
  rw [turn_succ env refQueue s hk, if_pos hreached]
  exact refreshSession_release hmsg hconn hstay hnone (turn_succeeds list hs k)

/-- Whatever the calls into freeDiameter answer, a refresh releases the sessions of subscribers
without rules only, if and only if it gets the list of rules of every session it comes to. -/
theorem releases_only_unruled_iff :
    (∀ s, ReleasesOnlyUnruled env refQueue s) ↔ ListsObtained env refQueue := by
  classical
  constructor
  · intro hall list hlist k sessionId msg hk hreached hmsg hconn
    by_contra hnot
    simp only [not_or, not_not, Bool.not_eq_true] at hnot
    obtain ⟨hstay, hreturned, hnone⟩ := hnot
    -- with calls that all succeed the request is really sent
    let s : Answering AnswerState := { answers := fun _ => true, state := {} }
    have hsent := turn_release hk hreached hmsg hconn hstay hnone (show s.AllSucceed from rfl)
    rcases hall s list hlist k sessionId hk _ hsent
        ⟨_, List.mem_singleton_self _, Option.some_ne_none _⟩ with
      habort | ⟨msg', hmsg', hlist', -⟩
    · simp [hstay] at habort
    · obtain rfl := Option.some.inj (hmsg.symm.trans hmsg')
      exact hreturned hlist'
  · intro hobtained s list hlist k sessionId hk new hnew hrelease
    have hturn := turn_succ env refQueue s hk
    split at hturn
    next hreached =>
      obtain ⟨sent, hsent, hsends⟩ := refreshSession_sends env refQueue k sessionId
        (env.turn refQueue list s k)
      obtain rfl : sent = new := List.append_cancel_left (hsent.symm.trans (hturn ▸ hnew))
      obtain ⟨rar, hrar, hcause⟩ := hrelease
      -- of the requests a turn can send, only one has a cause
      cases hsends with
      | nothing => simp at hrar
      | change => simp_all [rarOf]
      | @release msg avps hmsg hconn hwhy =>
        rcases hwhy with habort | hempty
        · exact .inl habort
        · have hnone := (abonRules_eq_nil_iff k msg).mp hempty
          refine (hobtained list hlist k sessionId msg hk hreached hmsg hconn).imp_right
            fun hlist => ⟨msg, hmsg, ?_, hnone⟩
          exact hlist.resolve_right (not_not.mpr hnone)
    next hstopped =>
      -- the loop has ended before: nothing is sent
      rw [hturn] at hnew
      obtain rfl := List.self_eq_append_right.mp hnew
      simp at hrelease

end

/-- A session of a connected UGW, known to a refresh that has no connection to the database. -/
def offlineEnv : RefreshEnv where
  sessionCache :=
    { umapSessionCache := Store.set Store.empty "gx;1;1"
        { coSubscriberId := .of "7", coOriginHost := .of "ugw", coOriginRealm := .of "net" } }
  vectPeerList :=
    [{ coHostName := .of "ugw", coHostReal := .of "net", uiPeerDialect := .gxHwUgw
       iIsConnected := 1 }]
  ruleCache := .ofRows [{ strRuleName := "a" }]
  pcoDBConn := none

/-- The entry of the queue for this session. -/
def offlineEntry : SRefQueue := .make "gx;1;1" (some "session_id") none

/-- The session is released, although nothing is known of the rules of its subscriber. -/
theorem offline_refresh_releases :
    ¬ ReleasesOnlyUnruled offlineEnv offlineEntry { answers := fun _ => true, state := {} } := by
  intro h
  let s : Answering AnswerState := { answers := fun _ => true, state := {} }
  obtain ⟨msg, hmsg⟩ := Option.isSome_iff_exists.mp
    (show (offlineEnv.loadSession "gx;1;1").isSome = true by decide)
  have hconn : pcrfPeerIsConnected offlineEnv.vectPeerList msg.soSessInfo ≠ 0 := by
    obtain rfl := Option.some.inj (hmsg.symm.trans (Option.some_get
      (show (offlineEnv.loadSession "gx;1;1").isSome = true by decide)).symm)
    decide
  have hnone : offlineEnv.NoneKnown 0 msg := fun name hname => absurd hname List.not_mem_nil
  have hsent := turn_release (show ["gx;1;1"][0]? = some "gx;1;1" from rfl) (by simp) hmsg hconn
    (show offlineEntry.abortsSession = false by decide) hnone (show s.AllSucceed from rfl)
  rcases h ["gx;1;1"] rfl 0 "gx;1;1" rfl _ hsent
      ⟨_, List.mem_singleton_self _, Option.some_ne_none _⟩ with
    habort | ⟨-, -, ⟨db, hdb, -⟩, -⟩
  · exact absurd habort (by decide)
  · exact absurd hdb (by simp [offlineEnv])

end Pcrf
