import Pcrf.SessionIndexes

/-!
What is left of a session that was removed: it is in the cache no more, but an index may still
list it under a key that its record has lost, and a link may still name it.
-/

namespace Pcrf

open Lib

/-- The session is neither cached nor in an index nor linked. -/
structure SessionCacheState.Forgets (st : SessionCacheState) (s : String) : Prop where
  cached : st.umapSessionCache s = none
  address : ∀ a, s ∉ st.mapFramedIPIndex.entries a
  subscriber : ∀ a, s ∉ st.mapSubscriberId.entries a
  parent : st.links.mapParent s = none
  child : st.links.mapChild s = none
  listed : ∀ p, s ∉ st.links.mapParent.entries p
  named : ∀ c, st.links.mapChild c ≠ some s

/-- Every entry about the session is where a removal looks for it: the indexes list it under the
keys of its record only, and it is not both a parent and the child of another session. -/
structure SessionCacheState.Traceable (st : SessionCacheState) (s : String) : Prop where
  address : ∀ a, s ∈ st.mapFramedIPIndex.entries a →
    ∃ record, st.umapSessionCache s = some record ∧ record.coFramedIPAddr.v = a
  subscriber : ∀ a, s ∈ st.mapSubscriberId.entries a →
    ∃ record, st.umapSessionCache s = some record ∧ record.coSubscriberId.isNull = false ∧
      record.coSubscriberId.v = a
  links : st.links.mapParent s = none ∨ st.links.mapChild s = none ∨
    st.links.mapChild s = some s

/-- In links that are inverse to each other a session without entries is not mentioned either. -/
theorem SessionCacheState.Forgets.of_inverse {st : SessionCacheState} {s : String}
    (inverse : st.links.Inverse) (cached : st.umapSessionCache s = none)
    (address : ∀ a, s ∉ st.mapFramedIPIndex.entries a)
    (subscriber : ∀ a, s ∉ st.mapSubscriberId.entries a)
    (parent : st.links.mapParent s = none) (child : st.links.mapChild s = none) :
    st.Forgets s where
  cached := cached
  address := address
  subscriber := subscriber
  parent := parent
  child := child
  listed p mem := by
    have linked := (inverse p s).mp mem
    rw [child] at linked
    cases linked
  named c linked := by
    have mem := (inverse s c).mpr linked
    rw [Index.entries, parent] at mem
    cases mem

/-! ### Removing the session -/

theorem removeLocal_cached (st : SessionCacheState) (sessionId x : String) :
    (pcrfSessionCacheRemoveLocal st sessionId).1.umapSessionCache x =
      if x = sessionId then none else st.umapSessionCache x := by
  unfold pcrfSessionCacheRemoveLocal
  cases h : st.umapSessionCache sessionId with
  | none =>
    by_cases hx : x = sessionId
    · simp [hx, h]
    · simp [hx]
  | some record => exact Store.erase_apply ..

theorem mem_purge_self {ix : Index String String} {k a s : String} :
    s ∈ (ix.purge k s).entries a ↔ s ∈ ix.entries a ∧ a ≠ k := by
  rw [Index.entries_purge]
  by_cases ha : a = k
  · simp [ha]
  · simp [ha]

/-- A session that is a parent and the child of another one stays a child. -/
theorem removeLink_forgets_iff {links : SessionLinks} (h : links.Inverse) (s : String) :
    ((pcrfSessionCacheRemoveLink links s).mapParent s = none ∧
      (pcrfSessionCacheRemoveLink links s).mapChild s = none) ↔
    (links.mapParent s = none ∨ links.mapChild s = none ∨ links.mapChild s = some s) := by
  cases hs : links.mapParent s with
  | none => exact iff_of_true (removeLink_forgets h hs) (.inl rfl)
  | some children =>
    have erased : (pcrfSessionCacheRemoveLink links s).mapParent s = none := by
      simp [pcrfSessionCacheRemoveLink, hs]
    have kept : (pcrfSessionCacheRemoveLink links s).mapChild s =
        if links.mapChild s = some s then none else links.mapChild s := by
      simp only [pcrfSessionCacheRemoveLink, hs]
      exact congrFun (eraseChildren_eq h hs) s
    rw [kept]
    by_cases own : links.mapChild s = some s
    · simp [erased, own]
    · simp [erased, own]

theorem removeLocal_address_iff (st : SessionCacheState) (s a : String) :
    s ∉ (pcrfSessionCacheRemoveLocal st s).1.mapFramedIPIndex.entries a ↔
      (s ∈ st.mapFramedIPIndex.entries a →
        ∃ record, st.umapSessionCache s = some record ∧ record.coFramedIPAddr.v = a) := by
  unfold pcrfSessionCacheRemoveLocal
  cases st.umapSessionCache s with
  | none => simp
  | some record =>
    simp only [pcrfSessionCacheIndexFrameIPAddressRemoveSession, mem_purge_self, not_and,
      not_not, Option.some.injEq, exists_eq_left']
    exact imp_congr_right fun _ => eq_comm

theorem removeLocal_subscriber_iff (st : SessionCacheState) (s a : String) :
    s ∉ (pcrfSessionCacheRemoveLocal st s).1.mapSubscriberId.entries a ↔
      (s ∈ st.mapSubscriberId.entries a →
        ∃ record, st.umapSessionCache s = some record ∧ record.coSubscriberId.isNull = false ∧
          record.coSubscriberId.v = a) := by
  unfold pcrfSessionCacheRemoveLocal
  cases st.umapSessionCache s with
  | none => simp
  | some record =>
    cases null : record.coSubscriberId.isNull with
    | true => simp [null]
    | false =>
      simp only [null, pcrfSessionCacheRmSubscriberSessionId, mem_purge_self, not_and, not_not,
        Option.some.injEq, exists_eq_left', if_false, Bool.false_eq_true, true_and]
      exact imp_congr_right fun _ => eq_comm

/-- A removal leaves nothing of a session exactly when it finds all there is. -/
theorem removeLocal_forgets_iff {st : SessionCacheState} (h : st.links.Inverse) (s : String) :
    (pcrfSessionCacheRemoveLocal st s).1.Forgets s ↔ st.Traceable s := by
  have links := removeLocal_links st s
  have linksForgotten := removeLink_forgets_iff h s
  rw [← links] at linksForgotten
  constructor
  · intro forgets
    exact ⟨fun a => (removeLocal_address_iff st s a).mp (forgets.address a),
      fun a => (removeLocal_subscriber_iff st s a).mp (forgets.subscriber a),
      linksForgotten.mp ⟨forgets.parent, forgets.child⟩⟩
  · intro traceable
    obtain ⟨parent, child⟩ := linksForgotten.mpr traceable.links
    exact .of_inverse (links ▸ removeLink_inverse h s)
      ((removeLocal_cached st s s).trans (if_pos rfl))
      (fun a => (removeLocal_address_iff st s a).mpr (traceable.address a))
      (fun a => (removeLocal_subscriber_iff st s a).mpr (traceable.subscriber a)) parent child

/-! ### Calls about other sessions -/

/-- The session that a call is about. -/
def CacheOp.sessionId : CacheOp → String
  | insertLocal sessionId _ _ _ | removeLocal sessionId => sessionId

/-- A call about another session neither inserts this one nor removes it. -/
theorem apply_cached_of_ne (st : SessionCacheState) {op : CacheOp} {x : String}
    (h : op.sessionId ≠ x) :
    ((st.apply op).umapSessionCache x).isSome = (st.umapSessionCache x).isSome := by
  cases op with
  | insertLocal sessionId info parent dialect =>
    have hx : x ≠ sessionId := Ne.symm h
    rw [SessionCacheState.apply]
    cases hs : st.umapSessionCache sessionId with
    | none =>
      rw [pcrfSessionCacheInsertLocal, hs]
      exact congrArg Option.isSome (Store.set_of_ne hx ..)
    | some old =>
      rw [insertLocal_cached hs, if_neg hx]
      split
      · exact Option.isSome_map
      · rfl
  | removeLocal sessionId =>
    have hx : x ≠ sessionId := Ne.symm h
    rw [SessionCacheState.apply, removeLocal_cached, if_neg hx]

/-- A session without an entry as a parent is nobody's parent. -/
theorem SessionLinks.Inverse.ne_parent {links : SessionLinks} (inverse : links.Inverse)
    {s c parent : String} (parentless : links.mapParent s = none)
    (linked : links.mapChild c = some parent) : s ≠ parent := by
  rintro rfl
  obtain ⟨children, hs, -⟩ := inverse.mem_iff_exists.mp linked
  rw [parentless] at hs
  cases hs

/-- A link of another session to a third one. -/
theorem mkLink2parent_forgets {links : SessionLinks} (inverse : links.Inverse) {s x : String}
    {parent : Option String} (hx : s ≠ x) (hparent : parent ≠ some s)
    (parentless : links.mapParent s = none) (childless : links.mapChild s = none) :
    (pcrfSessionCacheMkLink2parent links x parent).mapParent s = none ∧
      (pcrfSessionCacheMkLink2parent links x parent).mapChild s = none := by
  cases parent with
  | none => exact ⟨parentless, childless⟩
  | some parent =>
    have ne : s ≠ parent := fun h => hparent (h ▸ rfl)
    unfold pcrfSessionCacheMkLink2parent pcrfSessionCacheMkParent2child
      pcrfSessionCacheRmParent2childLink
    cases hprevious : links.mapChild x with
    | none =>
      exact ⟨(Index.push_of_ne ne ..).trans parentless, (Store.set_of_ne hx ..).trans childless⟩
    | some previous =>
      have pushed := (Index.push_of_ne ne links.mapParent x).trans parentless
      -- the previous parent is taken out of the list as well, and it is not `s` either
      have ne' := inverse.ne_parent parentless hprevious
      simp only
      split
      · exact ⟨pushed, childless⟩
      · have purged := (Index.purge_of_ne ne' _ x).trans pushed
        exact ⟨(Index.push_of_ne ne ..).trans purged, (Store.set_of_ne hx ..).trans childless⟩

theorem removeLink_forgets_of_ne {links : SessionLinks} (inverse : links.Inverse) {s x : String}
    (hx : s ≠ x) (parentless : links.mapParent s = none) (childless : links.mapChild s = none) :
    (pcrfSessionCacheRemoveLink links x).mapParent s = none ∧
      (pcrfSessionCacheRemoveLink links x).mapChild s = none := by
  unfold pcrfSessionCacheRemoveLink pcrfSessionCacheRmParent2childLink
  cases hchildren : links.mapParent x with
  | some children =>
    refine ⟨(Store.erase_of_ne hx ..).trans parentless, ?_⟩
    refine (congrFun (eraseChildren_eq inverse hchildren) s).trans ?_
    simp [childless]
  | none =>
    cases hparent : links.mapChild x with
    | none => exact ⟨parentless, childless⟩
    | some parent =>
      have ne := inverse.ne_parent parentless hparent
      exact ⟨(Index.purge_of_ne ne ..).trans parentless, (Store.erase_of_ne hx ..).trans childless⟩

theorem notMem_push {ix : Index String String} {k a s x : String} (hx : s ≠ x)
    (h : s ∉ ix.entries a) : s ∉ (ix.push k x).entries a := by
  rw [Index.entries_push]
  split
  next ha => simpa [hx, ha] using h
  next => exact h

theorem notMem_purge {ix : Index String String} {k a s x : String} (h : s ∉ ix.entries a) :
    s ∉ (ix.purge k x).entries a := by
  rw [Index.entries_purge]
  split
  next ha => exact fun mem => h (ha ▸ List.mem_of_mem_filter mem)
  next => exact h

/-- A call about another session leaves the session forgotten, unless it makes it a parent. -/
theorem apply_forgets_of_ne {st : SessionCacheState} (inverse : st.links.Inverse) {op : CacheOp}
    {s : String} (forgets : st.Forgets s) (other : op.sessionId ≠ s)
    (parentless : ∀ x info parent dialect, op = .insertLocal x info parent dialect →
      parent ≠ some s) : (st.apply op).Forgets s := by
  have cached : (st.apply op).umapSessionCache s = none := by
    have same := apply_cached_of_ne st other
    rw [forgets.cached] at same
    exact Option.isNone_iff_eq_none.mp (Option.isSome_eq_false_iff.mp same)
  have inverse' := apply_links_inverse st op inverse
  cases op with
  | insertLocal x info parent dialect =>
    have ne : s ≠ x := Ne.symm other
    simp only [SessionCacheState.apply] at cached inverse' ⊢
    have links := insertLocal_links st x info parent dialect
    cases hx : st.umapSessionCache x with
    | some old =>
      -- a session that is cached: neither the indexes nor the links change
      obtain ⟨address, subscriber⟩ := insertLocal_indexes hx info parent dialect
      rw [hx, Option.isSome_some, if_pos rfl] at links
      exact .of_inverse inverse' cached (address ▸ forgets.address)
        (subscriber ▸ forgets.subscriber) (links ▸ forgets.parent) (links ▸ forgets.child)
    | none =>
      rw [hx, Option.isSome_none, if_neg Bool.false_ne_true] at links
      -- a new one is entered under its own key, and linked to a parent that is not `s`
      obtain ⟨parent', child'⟩ := mkLink2parent_forgets inverse ne
        (parentless x info parent dialect rfl) forgets.parent forgets.child
      refine .of_inverse inverse' cached (fun a => ?_) (fun a => ?_) (links ▸ parent')
        (links ▸ child')
      · simp only [pcrfSessionCacheInsertLocal, hx]
        split
        · exact notMem_push ne (forgets.address a)
        · exact forgets.address a
      · simp only [pcrfSessionCacheInsertLocal, hx]
        split
        · exact forgets.subscriber a
        · intro mem
          cases (Index.mem_entries_insertSet ..).mp mem with
          | inl old => exact forgets.subscriber a old
          | inr new => exact ne new.2
  | removeLocal x =>
    have ne : s ≠ x := Ne.symm other
    simp only [SessionCacheState.apply] at cached inverse' ⊢
    have links := removeLocal_links st x
    -- a removal only takes entries away
    obtain ⟨parent', child'⟩ := removeLink_forgets_of_ne inverse ne forgets.parent forgets.child
    refine .of_inverse inverse' cached (fun a => ?_) (fun a => ?_) (links ▸ parent')
      (links ▸ child')
    · unfold pcrfSessionCacheRemoveLocal
      split
      · exact notMem_purge (forgets.address a)
      · exact forgets.address a
    · unfold pcrfSessionCacheRemoveLocal
      split
      · simp only
        split
        · exact forgets.subscriber a
        · exact notMem_purge (forgets.subscriber a)
      · exact forgets.subscriber a

end Pcrf
