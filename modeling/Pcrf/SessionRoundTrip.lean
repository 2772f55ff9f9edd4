import Pcrf.Refresh
import Pcrf.SessionLinks

/-!
What is left of a session that is inserted and removed again: the entries that were made for it
stay, and they are not the same as none.
-/

namespace Pcrf

open Lib

/-! ### Lookups -/

/-- Every lookup gives the same code and the same result. -/
structure SameLookups (st st' : SessionCacheState) : Prop where
  sessions : ∀ sessionId sessInfo reqInfo,
    pcrfSessionCacheGet st' sessionId sessInfo reqInfo =
      pcrfSessionCacheGet st sessionId sessInfo reqInfo
  byFramedIP : ∀ address,
    pcrfSessionCacheIndexFrameIPAddressGetSessionList st'.mapFramedIPIndex address =
      pcrfSessionCacheIndexFrameIPAddressGetSessionList st.mapFramedIPIndex address
  bySubscriber : ∀ subscriberId,
    pcrfSessionCacheGetSubscriberSessionId st'.mapSubscriberId subscriberId =
      pcrfSessionCacheGetSubscriberSessionId st.mapSubscriberId subscriberId
  children : ∀ sessionId,
    pcrfSessionCacheGetLinkedChildSessionList st'.links sessionId =
      pcrfSessionCacheGetLinkedChildSessionList st.links sessionId
  parent : ∀ sessionId,
    pcrfSessionCacheGetLinkedParentSession st'.links sessionId =
      pcrfSessionCacheGetLinkedParentSession st.links sessionId
  /-- A refresh finds the sessions of a subscriber in the same place. -/
  refreshed : ∀ (env : RefreshEnv) refQueue,
    pcrfClientDbLoadSessionList { env with sessionCache := st' } refQueue =
      pcrfClientDbLoadSessionList { env with sessionCache := st } refQueue

/-- The session is neither cached nor linked. -/
structure SessionCacheState.Unknown (st : SessionCacheState) (s : String) : Prop where
  uncached : st.umapSessionCache s = none
  noParent : st.links.mapChild s = none
  noChild : ∀ c, st.links.mapChild c ≠ some s

/-- The session is inserted and then removed. -/
def SessionCacheState.insertedAndRemoved (st : SessionCacheState) (s : String)
    (info : SSessionCache) (parent : Option String) (dialect : PeerDialect) :
    SessionCacheState :=
  (pcrfSessionCacheRemoveLocal (pcrfSessionCacheInsertLocal st s info parent dialect) s).1

/-- Nothing is left of the session in advance, and every list that it enters is there already. -/
structure SessionCacheState.Prepared (st : SessionCacheState) (s : String)
    (info : SSessionCache) (parent : Option String) : Prop where
  address : s ∉ st.mapFramedIPIndex.entries info.coFramedIPAddr.v
  subscriber : info.coSubscriberId.isNull = false →
    ∃ sessions, st.mapSubscriberId info.coSubscriberId.v = some sessions ∧ s ∉ sessions
  noEntry : st.links.mapParent s = none
  parentEntry : ∀ p, parent = some p → p ≠ s → st.links.mapParent p ≠ none

/-! ### The parts of the cache -/

section Links

variable {links : SessionLinks} {s : String}

/-- The removal takes the entry of the session out. -/
theorem removeLink_ne_of_entry {links' : SessionLinks} {children children' : List String}
    (hs : links.mapParent s = some children) (hs' : links'.mapParent s = some children') :
    pcrfSessionCacheRemoveLink links' s ≠ links := by
  intro heq
  have erased : (pcrfSessionCacheRemoveLink links' s).mapParent s = none := by
    simp only [pcrfSessionCacheRemoveLink, hs', Store.erase_self]
  rw [heq, hs] at erased
  cases erased

/-- A session that is its own parent has the only list that it is in. -/
theorem removeLink_self (hnone : links.mapParent s = none) (hchild : links.mapChild s = none) :
    pcrfSessionCacheRemoveLink (pcrfSessionCacheMkLink2parent links s (some s)) s = links := by
  have listed : links.mapParent.push s s = links.mapParent.set s [s] := by
    simp only [Index.push, hnone]
  simp only [pcrfSessionCacheMkLink2parent, pcrfSessionCacheMkParent2child, hchild, listed,
    pcrfSessionCacheRemoveLink, Store.set_self, eraseChildren, List.foldl_cons, List.foldl_nil,
    if_true, Store.erase_set_of_none hnone, Store.erase_set_of_none hchild]

section Other

variable {p : String} (hp : p ≠ s) (hchild : links.mapChild s = none)

include hp hchild

/-- The list of another parent is not that of the session. -/
theorem mkLink2parent_mapParent_self :
    (pcrfSessionCacheMkLink2parent links s (some p)).mapParent s = links.mapParent s := by
  simp only [pcrfSessionCacheMkLink2parent, pcrfSessionCacheMkParent2child, hchild]
  exact Index.push_of_ne (Ne.symm hp) ..

theorem removeLink_other (hs : links.mapParent s = none) :
    pcrfSessionCacheRemoveLink (pcrfSessionCacheMkLink2parent links s (some p)) s =
      { mapParent := (links.mapParent.push p s).purge p s
        mapChild := links.mapChild } := by
  have own := (mkLink2parent_mapParent_self hp hchild).trans hs
  simp only [pcrfSessionCacheRemoveLink, own]
  simp only [pcrfSessionCacheMkLink2parent, pcrfSessionCacheMkParent2child, hchild,
    Store.set_self, pcrfSessionCacheRmParent2childLink, Store.erase_set_of_none hchild]

/-- The list of the parent is as before exactly if there was one. -/
theorem removeLink_other_iff (h : links.Inverse) (hs : links.mapParent s = none) :
    pcrfSessionCacheRemoveLink (pcrfSessionCacheMkLink2parent links s (some p)) s = links ↔
      links.mapParent p ≠ none := by
  have unlisted : s ∉ links.mapParent.entries p := fun hmem => by
    have hlinked := (h p s).mp hmem
    rw [hchild] at hlinked
    cases hlinked
  have listed : (∃ l, links.mapParent p = some l ∧ s ∉ l) ↔ links.mapParent p ≠ none := by
    constructor
    · rintro ⟨l, hl, -⟩
      simp [hl]
    · intro hne
      obtain ⟨l, hl⟩ := Option.ne_none_iff_exists'.mp hne
      refine ⟨l, hl, fun hmem => unlisted ?_⟩
      rwa [Index.entries, hl]
  have whole : ({ mapParent := (links.mapParent.push p s).purge p s
                  mapChild := links.mapChild } : SessionLinks) = links ↔
      (links.mapParent.push p s).purge p s = links.mapParent := by
    cases links
    simp
  rw [removeLink_other hp hchild hs, whole, Index.purge_push_eq_iff, listed]

end Other

theorem removeLink_mkLink2parent_iff (h : links.Inverse) (hchild : links.mapChild s = none)
    (parent : Option String) :
    pcrfSessionCacheRemoveLink (pcrfSessionCacheMkLink2parent links s parent) s = links ↔
      links.mapParent s = none ∧
        ∀ p, parent = some p → p ≠ s → links.mapParent p ≠ none := by
  cases hs : links.mapParent s with
  | some children =>
    -- the entry is lost, whatever was put into it
    refine iff_of_false ?_ (by simp)
    cases parent with
    | none => exact removeLink_ne_of_entry hs hs
    | some p =>
      by_cases hp : p = s
      · have listed : (pcrfSessionCacheMkLink2parent links s (some s)).mapParent s =
            some (children ++ [s]) := by
          simp [pcrfSessionCacheMkLink2parent, pcrfSessionCacheMkParent2child, hchild,
            Index.push, hs]
        rw [hp]
        exact removeLink_ne_of_entry hs listed
      · exact removeLink_ne_of_entry hs ((mkLink2parent_mapParent_self hp hchild).trans hs)
  | none =>
    cases parent with
    | none => simp [pcrfSessionCacheMkLink2parent, pcrfSessionCacheRemoveLink, hs, hchild]
    | some p =>
      by_cases hp : p = s
      · rw [hp]
        exact iff_of_true (removeLink_self hs hchild)
          ⟨rfl, fun q hq hne => absurd (Option.some.inj hq).symm hne⟩
      · rw [removeLink_other_iff hp hchild h hs]
        simp [hp]

end Links

section Cache

variable {st : SessionCacheState} {s : String} (info : SSessionCache) (parent : Option String)
  (dialect : PeerDialect)

/-- What the insertion and the removal leave of each part. -/
theorem insertedAndRemoved_eq (huncached : st.umapSessionCache s = none) :
    st.insertedAndRemoved s info parent dialect =
      { umapSessionCache := st.umapSessionCache
        mapFramedIPIndex :=
          (if dialect.isIPCAN then st.mapFramedIPIndex.push info.coFramedIPAddr.v s
            else st.mapFramedIPIndex).purge info.coFramedIPAddr.v s
        mapSubscriberId :=
          if info.coSubscriberId.isNull then st.mapSubscriberId
          else (st.mapSubscriberId.insertSet stringLe info.coSubscriberId.v s).purge
            info.coSubscriberId.v s
        links :=
          pcrfSessionCacheRemoveLink (pcrfSessionCacheMkLink2parent st.links s parent) s } := by
  simp only [SessionCacheState.insertedAndRemoved, pcrfSessionCacheInsertLocal, huncached,
    pcrfSessionCacheRemoveLocal, Store.set_self, Store.erase_set_of_none huncached,
    pcrfSessionCacheIndexFrameIPAddressRemoveSession,
    pcrfSessionCacheIndexFrameIPAddressInsertSession, pcrfSessionCacheRmSubscriberSessionId,
    pcrfSessionCacheIndexSubscriberIdInsertSession]
  cases info.coSubscriberId.isNull <;> rfl

variable {info parent dialect}

theorem sameAddresses_iff :
    (∀ address, ((if dialect.isIPCAN then st.mapFramedIPIndex.push info.coFramedIPAddr.v s
        else st.mapFramedIPIndex).purge info.coFramedIPAddr.v s).entries address =
          st.mapFramedIPIndex.entries address) ↔
      s ∉ st.mapFramedIPIndex.entries info.coFramedIPAddr.v := by
  rw [← Index.entries_purge_eq_iff]
  cases dialect.isIPCAN with
  | true => simp only [if_true, Index.entries_purge_push]
  | false => rfl

theorem sameSubscribers_iff :
    (if info.coSubscriberId.isNull then st.mapSubscriberId
      else (st.mapSubscriberId.insertSet stringLe info.coSubscriberId.v s).purge
        info.coSubscriberId.v s) = st.mapSubscriberId ↔
      (info.coSubscriberId.isNull = false →
        ∃ sessions, st.mapSubscriberId info.coSubscriberId.v = some sessions ∧
          s ∉ sessions) := by
  cases info.coSubscriberId.isNull with
  | true => simp
  | false =>
    simp only [Bool.false_eq_true, if_false, true_imp_iff]
    exact Index.purge_insertSet_eq_iff stringLe

/-- The lookups agree when the lists of the addresses and the other maps do. -/
theorem sameLookups_iff {st' : SessionCacheState}
    (hcache : st'.umapSessionCache = st.umapSessionCache) :
    SameLookups st st' ↔
      (∀ address, st'.mapFramedIPIndex.entries address = st.mapFramedIPIndex.entries address) ∧
        st'.mapSubscriberId = st.mapSubscriberId ∧ st'.links = st.links := by
  constructor
  · intro same
    refine ⟨same.byFramedIP, funext same.bySubscriber, ?_⟩
    have children : st'.links.mapParent = st.links.mapParent := funext same.children
    have parent : st'.links.mapChild = st.links.mapChild := funext same.parent
    cases hlinks : st.links
    cases hlinks' : st'.links
    rw [hlinks, hlinks'] at children parent
    exact congrArg₂ SessionLinks.mk children parent
  · rintro ⟨haddresses, hsubscribers, hlinks⟩
    exact {
      sessions sessionId sessInfo reqInfo := by simp only [pcrfSessionCacheGet, hcache]
      byFramedIP := haddresses
      bySubscriber subscriberId := by rw [hsubscribers]
      children sessionId := by rw [hlinks]
      parent sessionId := by rw [hlinks]
      refreshed env refQueue := by simp only [pcrfClientDbLoadSessionList, hsubscribers] }

end Cache

/-- Inserting and removing a session is of no effect exactly if nothing was left of it before, and
no list had to be made for it. -/
theorem insertedAndRemoved_iff (ops : List CacheOp) {s : String}
    (unknown : (sessionCacheMachine.run ops).Unknown s) (info : SSessionCache)
    (parent : Option String) (dialect : PeerDialect) :
    SameLookups (sessionCacheMachine.run ops)
        ((sessionCacheMachine.run ops).insertedAndRemoved s info parent dialect) ↔
      (sessionCacheMachine.run ops).Prepared s info parent := by
  have parts := insertedAndRemoved_eq info parent dialect unknown.uncached
  have cached : ((sessionCacheMachine.run ops).insertedAndRemoved s info parent
      dialect).umapSessionCache = (sessionCacheMachine.run ops).umapSessionCache := by rw [parts]
  rw [sameLookups_iff cached, parts, sameAddresses_iff, sameSubscribers_iff,
    removeLink_mkLink2parent_iff (run_links_inverse ops) unknown.noParent parent]
  constructor
  · rintro ⟨address, subscriber, noEntry, parentEntry⟩
    exact ⟨address, subscriber, noEntry, parentEntry⟩
  · rintro ⟨address, subscriber, noEntry, parentEntry⟩
    exact ⟨address, subscriber, noEntry, parentEntry⟩

theorem empty_unknown (s : String) : (sessionCacheMachine.run []).Unknown s :=
  ⟨rfl, rfl, fun _ => (Option.some_ne_none s).symm⟩

/-- The first session of a subscriber: the subscriber keeps an empty set of sessions. -/
theorem insertedAndRemoved_first :
    ¬ SameLookups (sessionCacheMachine.run [])
      ((sessionCacheMachine.run []).insertedAndRemoved "gx;1"
        { coSubscriberId := .of "alice" } none .gxProcera) := by
  intro same
  obtain ⟨sessions, hnone, -⟩ :=
    ((insertedAndRemoved_iff [] (empty_unknown "gx;1") _ _ _).mp same).subscriber rfl
  cases hnone

theorem not_sameLookups_first :
    ¬ ∀ (ops : List CacheOp) (s : String), (sessionCacheMachine.run ops).Unknown s →
      ∀ (info : SSessionCache) (parent : Option String) (dialect : PeerDialect),
        SameLookups (sessionCacheMachine.run ops)
          ((sessionCacheMachine.run ops).insertedAndRemoved s info parent dialect) := by
  intro same
  have found := (same [] "gx;1" (empty_unknown "gx;1") { coSubscriberId := .of "alice" } none
    .gxProcera).bySubscriber "alice"
  exact absurd found (by decide)

end Pcrf
