import Pcrf.SessionLinks

/-!
What an insertion with a parent session leaves of the links: the session is listed once, unless
it was linked before, or is cached without that link.
-/

namespace Pcrf

open Lib

/-- The session has this parent, which lists it once, and no other session does. -/
structure SessionLinks.LinkedOnce (links : SessionLinks) (c p : String) : Prop where
  parent : pcrfSessionCacheGetLinkedParentSession links c = some p
  once : (links.mapParent.entries p).count c = 1
  nowhereElse : ∀ q, q ≠ p → c ∉ links.mapParent.entries q

/-! ### One insertion -/

section MkLink

variable {links : SessionLinks} {c p : String}

theorem SessionLinks.Inverse.count_eq_zero (h : links.Inverse) {q : String}
    (hne : links.mapChild c ≠ some q) : (links.mapParent.entries q).count c = 0 :=
  List.count_eq_zero.mpr fun hmem => hne ((h q c).mp hmem)

theorem SessionLinks.Inverse.linkedOnce_iff (h : links.Inverse) :
    links.LinkedOnce c p ↔
      links.mapChild c = some p ∧ (links.mapParent.entries p).count c = 1 := by
  constructor
  · rintro ⟨parent, once, -⟩
    exact ⟨parent, once⟩
  · rintro ⟨parent, once⟩
    refine ⟨parent, once, fun q hne hmem => hne ?_⟩
    exact Option.some.inj (((h q c).mp hmem).symm.trans parent)

/-- The child is filed behind the others, even if it is one of them. -/
theorem count_entries_push (mapParent : Index String String) :
    ((mapParent.push p c).entries p).count c = (mapParent.entries p).count c + 1 := by
  rw [Index.entries_push, if_pos rfl, List.count_append]
  simp

/-- A session that is linked anew is listed once exactly if it had no parent. -/
theorem mkLink2parent_linkedOnce_iff (h : links.Inverse) :
    (pcrfSessionCacheMkLink2parent links c (some p)).LinkedOnce c p ↔
      links.mapChild c = none := by
  rw [(mkLink2parent_inverse h c (some p)).linkedOnce_iff]
  unfold pcrfSessionCacheMkLink2parent pcrfSessionCacheMkParent2child
    pcrfSessionCacheRmParent2childLink
  cases hc : links.mapChild c with
  | none =>
    have none_listed := h.count_eq_zero (c := c) (q := p) (by simp [hc])
    simp [count_entries_push, none_listed]
  | some previous =>
    refine iff_of_false ?_ (Option.some_ne_none previous)
    rintro ⟨-, once⟩
    simp only at once
    split at once
    next hsame =>
      -- the child that is there already is listed a second time
      rw [count_entries_push] at once
      have listed := List.count_pos_iff.mpr ((h p c).mpr (hsame ▸ hc))
      omega
    next hne =>
      -- the first of the two entries is not taken back
      rw [count_entries_push, Index.entries_purge, if_neg (Ne.symm hne), count_entries_push]
        at once
      omega

end MkLink

section Insert

variable {st : SessionCacheState} {c p : String}

theorem insertLocal_linkedOnce_iff (h : st.links.Inverse) (info : SSessionCache)
    (dialect : PeerDialect) :
    (pcrfSessionCacheInsertLocal st c info (some p) dialect).links.LinkedOnce c p ↔
      if (st.umapSessionCache c).isSome then st.links.LinkedOnce c p
      else st.links.mapChild c = none := by
  rw [insertLocal_links]
  split
  · exact Iff.rfl
  · exact mkLink2parent_linkedOnce_iff h

end Insert

/-! ### Runs -/

/-- An insertion with a parent leaves the session listed once, under this parent. -/
def SessionCacheState.LinksOnce (st : SessionCacheState) : CacheOp → Prop
  | .insertLocal c info (some p) dialect =>
    (pcrfSessionCacheInsertLocal st c info (some p) dialect).links.LinkedOnce c p
  | .insertLocal _ _ none _ | .removeLocal _ => True

/-- A session that is inserted with a parent is new and has none, or is cached and has this one. -/
def SessionCacheState.LinkReady (st : SessionCacheState) : CacheOp → Prop
  | .insertLocal c _ (some p) _ =>
    if (st.umapSessionCache c).isSome then st.links.mapChild c = some p
    else st.links.mapChild c = none
  | .insertLocal _ _ none _ | .removeLocal _ => True

/-- No child is listed twice, and the two maps say the same. -/
def SessionLinks.Exact (links : SessionLinks) : Prop := links.mapParent.Exact links.mapChild

theorem SessionLinks.Exact.linkedOnce_iff {links : SessionLinks} (h : links.Exact)
    {c p : String} : links.LinkedOnce c p ↔ links.mapChild c = some p := by
  have inverse : links.Inverse := h.1
  rw [inverse.linkedOnce_iff, and_iff_left_iff_imp]
  intro hc
  exact List.count_eq_one_of_mem (h.2 p) ((h.1 p c).mpr hc)

theorem linksOnce_iff {st : SessionCacheState} (h : st.links.Exact) (op : CacheOp) :
    st.LinksOnce op ↔ st.LinkReady op := by
  cases op with
  | insertLocal c info parent dialect =>
    cases parent with
    | none => exact Iff.rfl
    | some p =>
      simp only [SessionCacheState.LinksOnce, SessionCacheState.LinkReady]
      rw [insertLocal_linkedOnce_iff h.1, h.linkedOnce_iff]
  | removeLocal s => exact Iff.rfl

theorem removeLink_exact {links : SessionLinks} (h : links.Exact) (s : String) :
    (pcrfSessionCacheRemoveLink links s).Exact := by
  refine ⟨removeLink_inverse h.1 s, ?_⟩
  unfold pcrfSessionCacheRemoveLink pcrfSessionCacheRmParent2childLink
  cases links.mapParent s with
  | some children => exact h.2.eraseKey s
  | none =>
    cases links.mapChild s with
    | some parent => exact h.2.purge parent s
    | none => exact h.2

/-- What meets the condition keeps every list free of doubles. -/
theorem apply_links_exact {st : SessionCacheState} {op : CacheOp} (h : st.links.Exact)
    (ready : st.LinkReady op) : (st.apply op).links.Exact := by
  cases op with
  | insertLocal c info parent dialect =>
    rw [SessionCacheState.apply, insertLocal_links]
    split
    next => exact h
    next hnew =>
      cases parent with
      | none => exact h
      | some p =>
        have unlinked : st.links.mapChild c = none := by
          simpa only [SessionCacheState.LinkReady, if_neg hnew] using ready
        have linked := Index.Exact.push (k := p) h unlinked
        simp only [pcrfSessionCacheMkLink2parent, unlinked]
        exact linked
  | removeLocal s =>
    rw [SessionCacheState.apply, removeLocal_links]
    exact removeLink_exact h s

/-- An insertion with a parent links the session once exactly if it is new without a link, or
cached with the same one. In every run the insertions link once all along exactly if each finds
its session so. -/
theorem insertLocal_links_once_iff (ops : List CacheOp) (c p : String) (info : SSessionCache)
    (dialect : PeerDialect) :
    ((pcrfSessionCacheInsertLocal (sessionCacheMachine.run ops) c info (some p)
          dialect).links.LinkedOnce c p ↔
        if ((sessionCacheMachine.run ops).umapSessionCache c).isSome then
          (sessionCacheMachine.run ops).links.LinkedOnce c p
        else (sessionCacheMachine.run ops).links.mapChild c = none) ∧
      (sessionCacheMachine.Meets SessionCacheState.LinksOnce ops ↔
        sessionCacheMachine.Meets SessionCacheState.LinkReady ops) := by
  constructor
  · exact insertLocal_linkedOnce_iff (run_links_inverse ops) info dialect
  · exact sessionCacheMachine.meets_congr_of_inv (I := fun st => st.links.Exact)
      ⟨Index.Inverts.empty, Index.Distinct.empty⟩ (fun st op h => linksOnce_iff h op)
      (fun st op h once => apply_links_exact h ((linksOnce_iff h op).mp once)) ops

/-- A session that was cached without a parent is not linked when one is given. -/
theorem not_linkedOnce_cached :
    ¬ ∀ (ops : List CacheOp) (c p : String) (info : SSessionCache) (dialect : PeerDialect),
      (pcrfSessionCacheInsertLocal (sessionCacheMachine.run ops) c info (some p)
        dialect).links.LinkedOnce c p := by
  intro linked
  have parent := (linked [.insertLocal "rx" {} none .rxIms] "rx" "gx" {} .rxIms).parent
  exact absurd parent (by decide)

end Pcrf
