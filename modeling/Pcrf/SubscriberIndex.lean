import Pcrf.SessionIndexes

/-!
When the subscriber-id index finds exactly the cached sessions of a subscriber.
-/

namespace Pcrf

open Lib

/-- The subscriber a session is to be found under. -/
def subscriberKey (st : SessionCacheState) : String → Option String :=
  recordKey OtlValue.toOption SSessionCache.coSubscriberId (fun _ => true) st.umapSessionCache

/-- A call that leaves the subscriber index in order: an insertion that replaces a record keeps
its Subscriber-Id, and hands its children none or the one they have. -/
def SubscriberKept (st : SessionCacheState) : CacheOp → Prop
  | .insertLocal s info _ _ =>
    match st.umapSessionCache s with
    | none => True
    | some _ =>
      KeepsKeys OtlValue.toOption SSessionCache.coSubscriberId (fun _ => true) true st s info
  | .removeLocal _ => True

private theorem created_inverts {st : SessionCacheState} {s : String}
    (hs : st.umapSessionCache s = none) (info : SSessionCache) (parent : Option String)
    (dialect : PeerDialect) (h : st.mapSubscriberId.Inverts (subscriberKey st)) :
    (pcrfSessionCacheInsertLocal st s info parent dialect).mapSubscriberId.Inverts
      (subscriberKey (pcrfSessionCacheInsertLocal st s info parent dialect)) := by
  have hkey : subscriberKey (pcrfSessionCacheInsertLocal st s info parent dialect) =
      Function.update (subscriberKey st) s info.coSubscriberId.toOption :=
    created_key hs info parent dialect fun _ _ => rfl
  have hold : subscriberKey st s = none := by
    simp [subscriberKey, recordKey, hs]
  have hindex : (pcrfSessionCacheInsertLocal st s info parent dialect).mapSubscriberId =
      if info.coSubscriberId.isNull then st.mapSubscriberId
      else st.mapSubscriberId.insertSet stringLe info.coSubscriberId.v s := by
    simp only [pcrfSessionCacheInsertLocal, hs]
    rfl
  rw [hkey, hindex]
  cases hnull : info.coSubscriberId.isNull with
  | true =>
    -- nothing is filed, and the session has no key
    rw [OtlValue.toOption_eq_none.mpr hnull, ← hold, Function.update_eq_self]
    exact h
  | false =>
    have hsome : info.coSubscriberId.toOption = some info.coSubscriberId.v :=
      OtlValue.toOption_eq_some.mpr ⟨hnull, rfl⟩
    rw [hsome]
    exact h.insertSet stringLe (.inl hold)

private theorem replaced_inverts_iff {st : SessionCacheState} {s : String}
    {old : SSessionCache} (hs : st.umapSessionCache s = some old) (info : SSessionCache)
    (parent : Option String) (dialect : PeerDialect)
    (h : st.mapSubscriberId.Inverts (subscriberKey st)) :
    (pcrfSessionCacheInsertLocal st s info parent dialect).mapSubscriberId.Inverts
        (subscriberKey (pcrfSessionCacheInsertLocal st s info parent dialect)) ↔
      KeepsKeys OtlValue.toOption SSessionCache.coSubscriberId (fun _ => true) true st s
        info := by
  have hindex := (insertLocal_indexes hs info parent dialect).2
  have hkeys : subscriberKey (pcrfSessionCacheInsertLocal st s info parent dialect) =
      subscriberKey st ↔
        KeepsKeys OtlValue.toOption SSessionCache.coSubscriberId (fun _ => true) true st s
          info :=
    replaced_key_iff (fun _ _ => rfl) hs info parent dialect rfl fun _ _ => rfl
  rw [hindex, ← hkeys]
  exact ⟨fun h' => h.unique h', fun heq => heq ▸ h⟩

private theorem removed_inverts {st : SessionCacheState} (s : String)
    (h : st.mapSubscriberId.Inverts (subscriberKey st)) :
    (pcrfSessionCacheRemoveLocal st s).1.mapSubscriberId.Inverts
      (subscriberKey (pcrfSessionCacheRemoveLocal st s).1) := by
  have hkey : subscriberKey (pcrfSessionCacheRemoveLocal st s).1 =
      Function.update (subscriberKey st) s none := removed_key fun _ _ => rfl
  rw [hkey]
  cases hs : st.umapSessionCache s with
  | none =>
    have hold : subscriberKey st s = none := by
      simp [subscriberKey, recordKey, hs]
    rw [← hold, Function.update_eq_self]
    simpa only [pcrfSessionCacheRemoveLocal, hs] using h
  | some record =>
    have hold : subscriberKey st s = record.coSubscriberId.toOption := by
      simp [subscriberKey, recordKey, hs]
    have hindex : (pcrfSessionCacheRemoveLocal st s).1.mapSubscriberId =
        if record.coSubscriberId.isNull then st.mapSubscriberId
        else st.mapSubscriberId.purge record.coSubscriberId.v s := by
      simp only [pcrfSessionCacheRemoveLocal, hs]
      rfl
    rw [hindex]
    cases hnull : record.coSubscriberId.isNull with
    | true =>
      -- a session without a subscriber has no entry
      have hnone : subscriberKey st s = none := hold.trans (OtlValue.toOption_eq_none.mpr hnull)
      rw [← hnone, Function.update_eq_self]
      exact h
    | false =>
      have hsome : record.coSubscriberId.toOption = some record.coSubscriberId.v :=
        OtlValue.toOption_eq_some.mpr ⟨hnull, rfl⟩
      exact h.purge (.inr (hold.trans hsome))

/-- One call keeps the index in order if and only if it meets `SubscriberKept`. -/
theorem apply_inverts_iff (st : SessionCacheState) (op : CacheOp)
    (h : st.mapSubscriberId.Inverts (subscriberKey st)) :
    (st.apply op).mapSubscriberId.Inverts (subscriberKey (st.apply op)) ↔
      SubscriberKept st op := by
  cases op with
  | insertLocal s info parent dialect =>
    simp only [SubscriberKept]
    cases hs : st.umapSessionCache s with
    | none => exact iff_true_intro (created_inverts hs info parent dialect h)
    | some old => exact replaced_inverts_iff hs info parent dialect h
  | removeLocal s => exact iff_true_intro (removed_inverts s h)

/-- A lookup by subscriber-id gives exactly the cached sessions of the subscriber. -/
def SubscriberIndexExact (st : SessionCacheState) : Prop :=
  ∀ subscriber s,
    (∃ sessions, pcrfSessionCacheGetSubscriberSessionId st.mapSubscriberId subscriber =
        some sessions ∧ s ∈ sessions) ↔
      ∃ record, st.umapSessionCache s = some record ∧
        record.coSubscriberId.isNull = false ∧ record.coSubscriberId.v = subscriber

theorem subscriberIndexExact_iff (st : SessionCacheState) :
    SubscriberIndexExact st ↔ st.mapSubscriberId.Inverts (subscriberKey st) := by
  have hkey : ∀ s subscriber, subscriberKey st s = some subscriber ↔
      ∃ record, st.umapSessionCache s = some record ∧
        record.coSubscriberId.isNull = false ∧ record.coSubscriberId.v = subscriber := by
    intro s subscriber
    simp only [subscriberKey, recordKey, Option.bind_eq_some_iff, if_true,
      OtlValue.toOption_eq_some]
  have hentry : ∀ subscriber s,
      (∃ sessions, pcrfSessionCacheGetSubscriberSessionId st.mapSubscriberId subscriber =
        some sessions ∧ s ∈ sessions) ↔ s ∈ st.mapSubscriberId.entries subscriber := by
    intro subscriber s
    simp only [pcrfSessionCacheGetSubscriberSessionId, Index.entries]
    cases st.mapSubscriberId subscriber <;> simp
  constructor
  · exact fun h subscriber s =>
      (hentry subscriber s).symm.trans ((h subscriber s).trans (hkey s subscriber).symm)
  · exact fun h subscriber s =>
      (hentry subscriber s).trans ((h subscriber s).trans (hkey s subscriber))

/-- The subscriber index is exact in every state of a run if and only if no call of the run
changes a Subscriber-Id that is cached. -/
theorem subscriberIndex_exact_iff (ops : List CacheOp) :
    (∀ pre, pre <+: ops → SubscriberIndexExact (sessionCacheMachine.run pre)) ↔
      sessionCacheMachine.Meets SubscriberKept ops := by
  simp only [subscriberIndexExact_iff]
  exact sessionCacheMachine.always_iff_meets
    (I := fun st => st.mapSubscriberId.Inverts (subscriberKey st))
    Index.Inverts.empty apply_inverts_iff ops

/-- A session opened while its subscriber was not known yet, and opened again later. -/
def lateSubscriberRun : List CacheOp :=
  [.insertLocal "gx;1;1" { coSubscriberId := .of "" } none .gxHwUgw,
   .insertLocal "gx;1;1" { coSubscriberId := .of "42" } none .gxHwUgw]

/-- A refresh of the subscriber does not reach the session. -/
theorem lateSubscriberRun_not_exact :
    ¬ SubscriberIndexExact (sessionCacheMachine.run lateSubscriberRun) := by
  intro h
  obtain ⟨sessions, hfound, -⟩ :=
    (h "42" "gx;1;1").mpr ⟨{ coSubscriberId := .of "42" }, rfl, rfl, rfl⟩
  exact Option.some_ne_none sessions hfound.symm

end Pcrf
