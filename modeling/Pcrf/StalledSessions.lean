import Pcrf.LocalQueue
import Pcrf.SessionIndexes

/-!
Which sessions the check for stalled sessions gives up.
-/

namespace Pcrf

open Lib

/-- The entry that is queued to abort the session `s`. -/
def abortEntry (s : String) : Int × SRefQueue :=
  (0, .make s (some "session_id") (some "abort_session"))

/-- The check adds one entry for each session listed under the address of the request. -/
theorem look4stalledsession_entries (mapFramedIPIndex : Index String String)
    (req : SSessionInfo) (queue : LocalRefreshQueue) :
    List.Perm (pcrfServerLook4stalledsession mapFramedIPIndex req queue).entries
      (((mapFramedIPIndex.entries req.coFramedIPAddress.v).map abortEntry) ++
        queue.entries) := by
  simp only [pcrfServerLook4stalledsession, pcrfSessionCacheIndexFrameIPAddressGetSessionList]
  induction mapFramedIPIndex.entries req.coFramedIPAddress.v generalizing queue with
  | nil => exact .refl _
  | cons s sessions ih =>
    rw [List.foldl_cons]
    refine (ih _).trans ?_
    have hadd : List.Perm
        (pcrfLocalRefreshQueueAdd queue 0 s (some "session_id") (some "abort_session")).entries
        (abortEntry s :: queue.entries) := Multimap.entries_insert_perm ..
    exact (hadd.append_left _).trans List.perm_middle

/-- Whatever the check adds to a queue aborts a cached session whose address is present and
equal to the one present in the request, and which is not the session of the request. -/
def AbortsOnlyStalled (st : SessionCacheState) (req : SSessionInfo) : Prop :=
  ∀ (before : LocalRefreshQueue) (added : List (Int × SRefQueue)),
    List.Perm (pcrfServerLook4stalledsession st.mapFramedIPIndex req before).entries
      (added ++ before.entries) →
    ∀ entry ∈ added, ∃ s record, entry = abortEntry s ∧ s ≠ req.strSessionId ∧
      st.umapSessionCache s = some record ∧
      record.coFramedIPAddr.isNull = false ∧ req.coFramedIPAddress.isNull = false ∧
      record.coFramedIPAddr.v = req.coFramedIPAddress.v

theorem abortsOnlyStalled_iff (st : SessionCacheState) (req : SSessionInfo) :
    AbortsOnlyStalled st req ↔
      ∀ s ∈ st.mapFramedIPIndex.entries req.coFramedIPAddress.v,
        s ≠ req.strSessionId ∧ ∃ record, st.umapSessionCache s = some record ∧
          record.coFramedIPAddr.isNull = false ∧ req.coFramedIPAddress.isNull = false ∧
          record.coFramedIPAddr.v = req.coFramedIPAddress.v := by
  have hentries := look4stalledsession_entries st.mapFramedIPIndex req
  constructor
  · intro h s hs
    obtain ⟨s', record, hentry, hne, hrecord⟩ :=
      h Multimap.empty _ (hentries Multimap.empty) _ (List.mem_map_of_mem hs)
    obtain rfl : s = s' := by
      simpa [abortEntry, SRefQueue.make] using hentry
    exact ⟨hne, record, hrecord⟩
  · intro h before added hadded entry hentry
    -- what was added is, up to order, one entry for each listed session
    have hperm := (List.perm_append_right_iff before.entries).mp
      ((hentries before).symm.trans hadded)
    obtain ⟨s, hs, rfl⟩ := List.mem_map.mp (hperm.mem_iff.mpr hentry)
    obtain ⟨hne, record, hrecord⟩ := h s hs
    exact ⟨s, record, rfl, hne, hrecord⟩

/-! ### Entries that point to the address of their session -/

/-- The index lists a session nowhere but under the address value it is cached with. -/
def ListedAtAddress (st : SessionCacheState) : Prop :=
  ∀ address, ∀ s ∈ st.mapFramedIPIndex.entries address,
    ∃ record, st.umapSessionCache s = some record ∧ record.coFramedIPAddr.v = address

/-- The index lists the session somewhere. -/
def Listed (st : SessionCacheState) (s : String) : Prop :=
  ∃ address, s ∈ st.mapFramedIPIndex.entries address

/-- A call that does not change the address of a session the index lists. -/
def AddressStable (st : SessionCacheState) : CacheOp → Prop
  | .insertLocal s info _ _ =>
    ∀ old, st.umapSessionCache s = some old →
      (Listed st s → info.coFramedIPAddr.v = old.coFramedIPAddr.v) ∧
      ∀ c ∈ st.links.mapParent.entries s, c ≠ s → Listed st c →
        ∀ record, st.umapSessionCache c = some record →
          info.coFramedIPAddr.isNull = true ∨ info.coFramedIPAddr.v = record.coFramedIPAddr.v
  | .removeLocal _ => True

private theorem created_listed {st : SessionCacheState} {s : String}
    (hs : st.umapSessionCache s = none) (info : SSessionCache) (parent : Option String)
    (dialect : PeerDialect) (h : ListedAtAddress st) :
    ListedAtAddress (pcrfSessionCacheInsertLocal st s info parent dialect) := by
  -- a session that is not cached is listed nowhere
  have hold : ∀ address, ∀ c ∈ st.mapFramedIPIndex.entries address, c ≠ s := by
    rintro address c hc rfl
    obtain ⟨record, hrecord, -⟩ := h address c hc
    simp [hs] at hrecord
  intro address c hc
  simp only [pcrfSessionCacheInsertLocal, hs,
    pcrfSessionCacheIndexFrameIPAddressInsertSession] at hc ⊢
  have hcase : c ∈ st.mapFramedIPIndex.entries address ∨
      (c = s ∧ address = info.coFramedIPAddr.v) := by
    cases hd : dialect.isIPCAN with
    | false => simp only [hd] at hc; exact .inl hc
    | true =>
      simp only [hd, if_true, Index.entries_push] at hc
      split at hc
      next ha =>
        rcases List.mem_append.mp hc with hc | hc
        · exact .inl (ha ▸ hc)
        · exact .inr ⟨List.mem_singleton.mp hc, ha⟩
      next => exact .inl hc
  rcases hcase with hc | ⟨rfl, rfl⟩
  · rw [Store.set_of_ne (hold address c hc)]
    exact h address c hc
  · exact ⟨info, Store.set_self .., rfl⟩

private theorem replaced_listed_iff {st : SessionCacheState} {s : String} {old : SSessionCache}
    (hs : st.umapSessionCache s = some old) (info : SSessionCache) (parent : Option String)
    (dialect : PeerDialect) (h : ListedAtAddress st) :
    ListedAtAddress (pcrfSessionCacheInsertLocal st s info parent dialect) ↔
      AddressStable st (.insertLocal s info parent dialect) := by
  have hcache := insertLocal_cached hs info parent dialect
  have hindex := (insertLocal_indexes hs info parent dialect).1
  have hupdated : ∀ record : SSessionCache,
      (record.updateSomeValues info).coFramedIPAddr.v = record.coFramedIPAddr.v ↔
        info.coFramedIPAddr.isNull = true ∨
          info.coFramedIPAddr.v = record.coFramedIPAddr.v := by
    intro record
    simp only [SSessionCache.updateSomeValues, OtlValue.updateFrom]
    split
    next hnull => simp [hnull]
    next hnull => simp [hnull]
  constructor
  · intro hafter old' hold'
    obtain rfl : old = old' := Option.some.inj (hs.symm.trans hold')
    constructor
    · -- the session itself: its list is still the one of the old address
      rintro ⟨address, hc⟩
      obtain ⟨record, hrecord, hv⟩ := hafter address s (hindex ▸ hc)
      obtain ⟨record', hrecord', hv'⟩ := h address s hc
      obtain rfl : old = record' := Option.some.inj (hs.symm.trans hrecord')
      rw [hcache, if_pos rfl] at hrecord
      obtain rfl := Option.some.inj hrecord
      rw [hv, hv']
    · -- a child: its record was updated under the list it is in
      rintro c hchild hcs ⟨address, hc⟩ record hrecord
      obtain ⟨record', hrecord', hv⟩ := hafter address c (hindex ▸ hc)
      obtain ⟨record'', hrecord'', hv'⟩ := h address c hc
      obtain rfl : record = record'' := Option.some.inj (hrecord.symm.trans hrecord'')
      rw [hcache, if_neg hcs, if_pos hchild, hrecord] at hrecord'
      obtain rfl := Option.some.inj hrecord'
      exact (hupdated record).mp (hv.trans hv'.symm)
  · intro hstable address c hc
    obtain ⟨hself, hchildren⟩ := hstable old hs
    rw [hindex] at hc
    obtain ⟨record, hrecord, hv⟩ := h address c hc
    rw [hcache]
    by_cases hcs : c = s
    · subst hcs
      obtain rfl : old = record := Option.some.inj (hs.symm.trans hrecord)
      exact ⟨info, by simp, (hself ⟨address, hc⟩).trans hv⟩
    · by_cases hchild : c ∈ st.links.mapParent.entries s
      · have hkept := (hupdated record).mpr (hchildren c hchild hcs ⟨address, hc⟩ record hrecord)
        exact ⟨_, by simp [hcs, hchild, hrecord], hkept.trans hv⟩
      · exact ⟨record, by simp [hcs, hchild, hrecord], hv⟩

private theorem removed_listed {st : SessionCacheState} (s : String) (h : ListedAtAddress st) :
    ListedAtAddress (pcrfSessionCacheRemoveLocal st s).1 := by
  intro address c hc
  simp only [pcrfSessionCacheRemoveLocal,
    pcrfSessionCacheIndexFrameIPAddressRemoveSession] at hc ⊢
  cases hs : st.umapSessionCache s with
  | none =>
    simp only [hs] at hc ⊢
    exact h address c hc
  | some record =>
    simp only [hs, Index.entries_purge] at hc ⊢
    -- the only list the session can be in is the one of its address, and that one is purged
    have hmem : c ∈ st.mapFramedIPIndex.entries address ∧ c ≠ s := by
      split at hc
      next ha =>
        subst ha
        simpa using hc
      next ha =>
        refine ⟨hc, ?_⟩
        rintro rfl
        obtain ⟨record', hrecord', hv⟩ := h address c hc
        obtain rfl : record = record' := Option.some.inj (hs.symm.trans hrecord')
        exact ha hv.symm
    obtain ⟨hc, hcs⟩ := hmem
    rw [Store.erase_of_ne hcs]
    exact h address c hc

theorem apply_listed_iff (st : SessionCacheState) (op : CacheOp) (h : ListedAtAddress st) :
    ListedAtAddress (st.apply op) ↔ AddressStable st op := by
  cases op with
  | insertLocal s info parent dialect =>
    cases hs : st.umapSessionCache s with
    | none =>
      refine iff_of_true (created_listed hs info parent dialect h) ?_
      intro old hold
      simp [hs] at hold
    | some old => exact replaced_listed_iff hs info parent dialect h
  | removeLocal s => exact iff_true_intro (removed_listed s h)

/-- The entries of the index stay with the addresses of their sessions all along a run if and
only if no call of the run changes the address of a listed session. -/
theorem run_listed_iff (ops : List CacheOp) :
    (∀ pre, pre <+: ops → ListedAtAddress (sessionCacheMachine.run pre)) ↔
      sessionCacheMachine.Meets AddressStable ops :=
  sessionCacheMachine.always_iff_meets (I := ListedAtAddress)
    (fun _ _ hs => absurd hs (List.not_mem_nil)) apply_listed_iff ops

/-! ### The check -/

/-- No listed session that the request must leave alone carries the value looked up: not the
session the request opens, none without an address, and none at all when the request has no
address. -/
def LookupSeparate (st : SessionCacheState) (req : SSessionInfo) : Prop :=
  ∀ s record, st.umapSessionCache s = some record → Listed st s →
    (s = req.strSessionId ∨ record.coFramedIPAddr.isNull = true ∨
      req.coFramedIPAddress.isNull = true) →
    record.coFramedIPAddr.v ≠ req.coFramedIPAddress.v

/-- After a run that changes no listed address, the check aborts stalled sessions only, for
exactly the requests that `LookupSeparate` describes. -/
theorem look4stalledsession_safe_iff (ops : List CacheOp)
    (h : sessionCacheMachine.Meets AddressStable ops) (req : SSessionInfo) :
    AbortsOnlyStalled (sessionCacheMachine.run ops) req ↔
      LookupSeparate (sessionCacheMachine.run ops) req := by
  have hlisted := (run_listed_iff ops).mpr h ops List.prefix_rfl
  rw [abortsOnlyStalled_iff]
  constructor
  · rintro hsafe s record hrecord ⟨address, hs⟩ hcase hv
    obtain ⟨record', hrecord', hv'⟩ := hlisted address s hs
    obtain rfl : record = record' := Option.some.inj (hrecord.symm.trans hrecord')
    -- the session is looked up with the request, so it would be aborted
    obtain ⟨hne, record', hrecord', hnull, hreq, -⟩ := hsafe s ((hv'.symm.trans hv) ▸ hs)
    obtain rfl : record = record' := Option.some.inj (hrecord.symm.trans hrecord')
    rcases hcase with rfl | hcase | hcase
    · exact hne rfl
    · simp [hnull] at hcase
    · simp [hreq] at hcase
  · intro hsep s hs
    obtain ⟨record, hrecord, hv⟩ := hlisted _ s hs
    -- its value is the one looked up, so none of the three cases can hold
    have hno := fun hcase => hsep s record hrecord ⟨_, hs⟩ hcase hv
    simp only [not_or, Bool.not_eq_true, imp_false] at hno
    exact ⟨hno.1, record, hrecord, hno.2.1, hno.2.2, hv⟩

/-- A session with an address is cached. -/
def addressRun : List CacheOp :=
  [.insertLocal "gx;1;1" { coFramedIPAddr := .of "10.0.0.1" } none .gxHwUgw]

/-- A new session with the same address gives it up, and nothing else. -/
theorem look4stalledsession_safe_once :
    AbortsOnlyStalled (sessionCacheMachine.run addressRun)
      { strSessionId := "gx;1;2", coFramedIPAddress := .of "10.0.0.1" } := by
  have hmeets : sessionCacheMachine.Meets AddressStable addressRun :=
    ⟨fun old hold => absurd hold.symm (Option.some_ne_none old), trivial⟩
  refine (look4stalledsession_safe_iff addressRun hmeets _).mpr ?_
  intro s record hrecord _ hcase
  by_cases hs : s = "gx;1;1"
  · subst hs
    obtain rfl : { coFramedIPAddr := .of "10.0.0.1" } = record := Option.some.inj hrecord
    exact absurd hcase (by decide)
  · have hnone : (sessionCacheMachine.run addressRun).umapSessionCache s = none :=
      Store.set_of_ne hs _ _
    rw [hnone] at hrecord
    exact absurd hrecord.symm (Option.some_ne_none record)

/-- A session without address is cached, and another one without address is opened. -/
def noAddressRun : List CacheOp := [.insertLocal "gx;1;1" {} none .gxHwUgw]

theorem look4stalledsession_aborts_unrelated :
    ¬ AbortsOnlyStalled (sessionCacheMachine.run noAddressRun)
      { strSessionId := "gx;1;2" } := by
  rw [abortsOnlyStalled_iff]
  intro h
  obtain ⟨-, record, -, -, hpresent, -⟩ := h "gx;1;1" (by decide)
  exact absurd hpresent (by decide)

end Pcrf
