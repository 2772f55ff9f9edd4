import Pcrf.SessionIndexes

/-!
What the linked sessions take from a record that is replaced. The numbers of the IP-CAN-Type and
the RAT-Type go to them without the texts.
-/

namespace Pcrf

open Lib

/-- A session with the values that the new record of its parent has. -/
def SSessionCache.mergedWith (old new : SSessionCache) : SSessionCache :=
  let located := !new.coCGI.isNull || !new.coECGI.isNull || !new.coTAI.isNull
  { old with
    coSubscriberId := old.coSubscriberId.updateFrom new.coSubscriberId
    coFramedIPAddr := old.coFramedIPAddr.updateFrom new.coFramedIPAddr
    coCalledStationId := old.coCalledStationId.updateFrom new.coCalledStationId
    coIPCANType := old.coIPCANType.updateFrom new.coIPCANType
    iIPCANType := if new.coIPCANType.isNull then old.iIPCANType else new.iIPCANType
    coSGSNMCCMNC := old.coSGSNMCCMNC.updateFrom new.coSGSNMCCMNC
    coSGSNIPAddr := old.coSGSNIPAddr.updateFrom new.coSGSNIPAddr
    coRATType := old.coRATType.updateFrom new.coRATType
    iRATType := if new.coRATType.isNull then old.iRATType else new.iRATType
    coCGI := if located then new.coCGI else old.coCGI
    coECGI := if located then new.coECGI else old.coECGI
    coTAI := if located then new.coTAI else old.coTAI }

/-- The numbers that the new record has without a text are those of the old one. -/
structure SSessionCache.NumbersKept (old new : SSessionCache) : Prop where
  ipCANType : new.coIPCANType.isNull = true → new.iIPCANType = old.iIPCANType
  ratType : new.coRATType.isNull = true → new.iRATType = old.iRATType

theorem updateSomeValues_eq_iff (old new : SSessionCache) :
    old.updateSomeValues new = old.mergedWith new ↔ old.NumbersKept new := by
  have number (null : Bool) (a b : Int32) :
      (a = if null then b else a) ↔ (null = true → a = b) := by
    cases null <;> simp
  constructor
  · intro heq
    exact ⟨(number ..).mp (congrArg SSessionCache.iIPCANType heq),
      (number ..).mp (congrArg SSessionCache.iRATType heq)⟩
  · rintro ⟨ipCANType, ratType⟩
    have hipCANType := (number ..).mpr ipCANType
    have hratType := (number ..).mpr ratType
    simp only [SSessionCache.updateSomeValues, SSessionCache.mergedWith, ← hipCANType, ← hratType]

section Replace

variable (st : SessionCacheState) (p : String) (info : SSessionCache) (parent : Option String)
  (dialect : PeerDialect)

/-- The record is replaced, and every cached session in the list of children is merged with it; no
other session changes. -/
structure UpdatesChildren : Prop where
  replaced : (pcrfSessionCacheInsertLocal st p info parent dialect).umapSessionCache p = some info
  children : ∀ c ∈ st.links.mapParent.entries p, ∀ old,
    st.umapSessionCache.set p info c = some old →
      (pcrfSessionCacheInsertLocal st p info parent dialect).umapSessionCache c =
        some (old.mergedWith info)
  others : ∀ c, c ≠ p →
    c ∉ st.links.mapParent.entries p ∨ st.umapSessionCache c = none →
      (pcrfSessionCacheInsertLocal st p info parent dialect).umapSessionCache c =
        st.umapSessionCache c

variable {st p}

/-- The children are updated as they should exactly if the new record has no number without a text
that one of them does not have. -/
theorem updatesChildren_iff (hcached : (st.umapSessionCache p).isSome) :
    UpdatesChildren st p info parent dialect ↔
      ∀ c ∈ st.links.mapParent.entries p, ∀ old,
        st.umapSessionCache.set p info c = some old → old.NumbersKept info := by
  obtain ⟨record, hrecord⟩ := Option.isSome_iff_exists.mp hcached
  have hcache := insertLocal_cached hrecord info parent dialect
  -- a child is updated, and so is the session itself if it is its own child
  have hchild (c : String) (hmem : c ∈ st.links.mapParent.entries p) (old : SSessionCache)
      (hold : st.umapSessionCache.set p info c = some old) :
      (pcrfSessionCacheInsertLocal st p info parent dialect).umapSessionCache c =
        some (old.updateSomeValues info) := by
    rw [hcache]
    by_cases hc : c = p
    · rw [hc, Store.set_self, Option.some_inj] at hold
      rw [if_pos hc, ← hold, updateSomeValues_self]
    · rw [Store.set_of_ne hc] at hold
      rw [if_neg hc, if_pos hmem, hold, Option.map_some]
  constructor
  · intro updates c hmem old hold
    have merged := updates.children c hmem old hold
    rw [hchild c hmem old hold, Option.some_inj] at merged
    exact (updateSomeValues_eq_iff old info).mp merged
  · intro numbers
    constructor
    · rw [hcache, if_pos rfl]
    · intro c hmem old hold
      rw [hchild c hmem old hold, (updateSomeValues_eq_iff old info).mpr (numbers c hmem old hold)]
    · intro c hc hother
      rw [hcache, if_neg hc]
      split
      next hmem =>
        rw [hother.resolve_left (not_not.mpr hmem)]
        rfl
      next => rfl

end Replace

/-- A session for an address, and a second one that is linked to it. -/
def linkedRun : List CacheOp :=
  [.insertLocal "gx;1" { coRATType := .of "EUTRAN", iRATType := 1004 } none .gxHwUgw,
    .insertLocal "rx;1" { coRATType := .of "EUTRAN", iRATType := 1004 } (some "gx;1") .rxIms]

theorem updatesChildren_newRAT :
    UpdatesChildren (sessionCacheMachine.run linkedRun) "gx;1"
      { coRATType := .of "UTRAN", iRATType := 1000 } none .gxHwUgw := by
  refine (updatesChildren_iff _ _ _ (by decide)).mpr fun c hmem old hold => ?_
  obtain rfl : c = "rx;1" := List.mem_singleton.mp hmem
  obtain rfl : { coRATType := .of "EUTRAN", iRATType := 1004 } = old := Option.some.inj hold
  exact ⟨fun _ => rfl, fun hnull => by cases hnull⟩

/-- A new record without a RAT-Type leaves the text of the linked session with the number 0. -/
theorem not_updatesChildren_noRAT :
    ¬ ∀ (ops : List CacheOp) (p : String) (info : SSessionCache) (parent : Option String)
      (dialect : PeerDialect), ((sessionCacheMachine.run ops).umapSessionCache p).isSome →
        UpdatesChildren (sessionCacheMachine.run ops) p info parent dialect := by
  intro updates
  have merged := (updates linkedRun "gx;1" {} none .gxHwUgw (by decide)).children "rx;1"
    (by decide) { coRATType := .of "EUTRAN", iRATType := 1004 } (by decide)
  exact absurd merged (by decide)

end Pcrf
