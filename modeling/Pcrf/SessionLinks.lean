import Pcrf.SessionCache

/-!
The two maps of linked sessions are inverse to each other in every reachable state.
-/

namespace Pcrf

open Lib

/-- `g_mapParent` lists exactly the sessions that `g_mapChild` gives this parent. -/
def SessionLinks.Inverse (links : SessionLinks) : Prop :=
  links.mapParent.Inverts links.mapChild

private theorem relink_mem (mapParent : Index String String) {previous parent : String}
    (hne : previous ≠ parent) (s k c : String) :
    c ∈ (((mapParent.push parent s).purge previous s).push parent s).entries k ↔
      c ∈ ((mapParent.purge previous s).push parent s).entries k := by
  by_cases hk : k = parent
  · subst hk
    simp [Index.entries_push, Index.entries_purge, Ne.symm hne]
  · -- the list of the previous parent is purged after the first push as well as without it
    by_cases hp : k = previous <;> simp [Index.entries_push, Index.entries_purge, hk, hp, hne]

theorem mkLink2parent_inverse {links : SessionLinks} (h : links.Inverse) (s : String)
    (parentSessionId : Option String) :
    (pcrfSessionCacheMkLink2parent links s parentSessionId).Inverse := by
  cases parentSessionId with
  | none => exact h
  | some parent =>
    unfold pcrfSessionCacheMkLink2parent pcrfSessionCacheMkParent2child
      pcrfSessionCacheRmParent2childLink
    cases hs : links.mapChild s with
    | none => exact h.push (.inl hs)
    | some previous =>
      simp only
      split
      next hsame =>
        -- linked to the same parent again: the child is listed once more
        subst hsame
        have hpush := h.push (k := previous) (.inr hs)
        rwa [← hs, Function.update_eq_self] at hpush
      next hne =>
        -- unlink, then link: the order in which the code pushes makes no difference
        have hunlinked := h.purge (k := previous) (.inr hs)
        have hlinked := hunlinked.push (k := parent) (.inl (Function.update_self ..))
        rw [Function.update_idem] at hlinked
        exact hlinked.of_mem_iff (relink_mem links.mapParent hne s)

theorem eraseChildren_apply (s : String) (mapChild : Store String String)
    (children : List String) (c : String) :
    eraseChildren s mapChild children c =
      if c ∈ children ∧ mapChild c = some s then none else mapChild c := by
  unfold eraseChildren
  induction children generalizing mapChild with
  | nil => simp
  | cons d children ih =>
    rw [List.foldl_cons, ih]
    by_cases hd : mapChild d = some s
    · rw [if_pos hd, Store.erase_apply]
      by_cases hcd : c = d
      · simp [hcd, hd]
      · simp [hcd]
    · rw [if_neg hd]
      by_cases hcd : c = d
      · simp [hcd, hd]
      · simp [hcd]

theorem eraseChildren_eq {links : SessionLinks} (h : links.Inverse) {s : String}
    {children : List String} (hs : links.mapParent s = some children) :
    eraseChildren s links.mapChild children =
      fun c => if links.mapChild c = some s then none else links.mapChild c := by
  funext c
  -- the children listed are exactly those whose entry points back
  have hmem : links.mapChild c = some s ↔ c ∈ children := by
    rw [← h s c, Index.entries, hs]
    rfl
  rw [eraseChildren_apply]
  simp [hmem]

theorem removeLink_inverse {links : SessionLinks} (h : links.Inverse) (s : String) :
    (pcrfSessionCacheRemoveLink links s).Inverse := by
  unfold pcrfSessionCacheRemoveLink pcrfSessionCacheRmParent2childLink
  cases hp : links.mapParent s with
  | some children =>
    simp only [SessionLinks.Inverse, eraseChildren_eq h hp]
    exact h.eraseKey s
  | none =>
    cases hc : links.mapChild s with
    | some parent => exact h.purge (.inr hc)
    | none => exact h

theorem insertLocal_links (st : SessionCacheState) (s : String) (info : SSessionCache)
    (parent : Option String) (dialect : PeerDialect) :
    (pcrfSessionCacheInsertLocal st s info parent dialect).links =
      if (st.umapSessionCache s).isSome then st.links
      else pcrfSessionCacheMkLink2parent st.links s parent := by
  unfold pcrfSessionCacheInsertLocal
  cases st.umapSessionCache s <;> rfl

theorem removeLocal_links (st : SessionCacheState) (s : String) :
    (pcrfSessionCacheRemoveLocal st s).1.links = pcrfSessionCacheRemoveLink st.links s := by
  unfold pcrfSessionCacheRemoveLocal
  cases st.umapSessionCache s <;> rfl

/-- Every call on the cache keeps the maps inverse to each other. -/
theorem apply_links_inverse (st : SessionCacheState) (op : CacheOp) (h : st.links.Inverse) :
    (st.apply op).links.Inverse := by
  cases op with
  | insertLocal s info parent dialect =>
    rw [SessionCacheState.apply, insertLocal_links]
    split
    · exact h
    · exact mkLink2parent_inverse h s parent
  | removeLocal s =>
    rw [SessionCacheState.apply, removeLocal_links]
    exact removeLink_inverse h s

theorem run_links_inverse (ops : List CacheOp) :
    (sessionCacheMachine.run ops).links.Inverse :=
  sessionCacheMachine.inv_run (I := fun st => st.links.Inverse) Index.Inverts.empty
    apply_links_inverse ops

/-- A removed session is nobody's parent. -/
theorem removeLink_no_parent {links : SessionLinks} (h : links.Inverse) (s c : String) :
    (pcrfSessionCacheRemoveLink links s).mapChild c ≠ some s := by
  unfold pcrfSessionCacheRemoveLink
  cases hp : links.mapParent s with
  | some children =>
    simp only [eraseChildren_eq h hp]
    split <;> simp_all
  | none =>
    -- without an entry as a parent it cannot be anybody's parent
    have hchild : links.mapChild c ≠ some s := by
      rw [Ne, h.mem_iff_exists, hp]
      simp
    cases hc : links.mapChild s with
    | some parent =>
      simp only [Store.erase_apply]
      split
      · simp
      · exact hchild
    | none => exact hchild

/-- A session without children is forgotten as a child, too. -/
theorem removeLink_forgets {links : SessionLinks} (h : links.Inverse) {s : String}
    (hs : links.mapParent s = none) :
    (pcrfSessionCacheRemoveLink links s).mapParent s = none ∧
      (pcrfSessionCacheRemoveLink links s).mapChild s = none := by
  unfold pcrfSessionCacheRemoveLink pcrfSessionCacheRmParent2childLink
  simp only [hs]
  cases hc : links.mapChild s with
  | some parent =>
    refine ⟨?_, Store.erase_self ..⟩
    -- its parent has an entry and it has none, so the purge is not at its own
    obtain ⟨l, hl, -⟩ := h.mem_iff_exists.mp hc
    have hne : s ≠ parent := by
      rintro rfl
      simp [hs] at hl
    simp [Index.purge, hl, hne, hs]
  | none => exact ⟨hs, hc⟩

/-- In every reachable state the two link maps say the same, and a removal leaves no session
linked to the removed one; one that had no entry as a parent is gone from both maps. -/
theorem session_links_consistent (ops : List CacheOp) :
    (∀ c p, (sessionCacheMachine.run ops).links.mapChild c = some p ↔
      ∃ children, (sessionCacheMachine.run ops).links.mapParent p = some children ∧
        c ∈ children) ∧
    ∀ s, (∀ c, (pcrfSessionCacheRemoveLocal (sessionCacheMachine.run ops) s).1.links.mapChild c
        ≠ some s) ∧
      ((sessionCacheMachine.run ops).links.mapParent s = none →
        let links := (pcrfSessionCacheRemoveLocal (sessionCacheMachine.run ops) s).1.links
        links.mapParent s = none ∧
        (∀ p children, links.mapParent p = some children → s ∉ children) ∧
        links.mapChild s = none ∧
        ∀ c, links.mapChild c ≠ some s) := by
  have h := run_links_inverse ops
  refine ⟨fun c p => h.mem_iff_exists, fun s => ⟨fun c => ?_, fun hs => ?_⟩⟩
  · rw [removeLocal_links]
    exact removeLink_no_parent h s c
  · obtain ⟨hparent, hchild⟩ := removeLink_forgets h hs
    simp only [removeLocal_links]
    refine ⟨hparent, fun p children hp hmem => ?_, hchild, removeLink_no_parent h s⟩
    have hlinked := (removeLink_inverse h s).mem_iff_exists.mpr ⟨children, hp, hmem⟩
    rw [hchild] at hlinked
    exact absurd hlinked (by simp)

end Pcrf
