import Pcrf.SessionLinks

/-!
When the Framed-IP-Address index and the subscriber-id index list the sessions they should.
Both are written when a record is created and when it is removed, never when it changes.
-/

namespace Pcrf

open Lib

/-! ### What an insertion does to the records -/

theorem updateSomeValues_self (record : SSessionCache) :
    record.updateSomeValues record = record := by
  simp [SSessionCache.updateSomeValues, OtlValue.updateFrom]

theorem updateSomeValues_idem (old new : SSessionCache) :
    (old.updateSomeValues new).updateSomeValues new = old.updateSomeValues new := by
  have hfrom : ∀ a b : OtlValue String, (a.updateFrom b).updateFrom b = a.updateFrom b := by
    intro a b
    simp only [OtlValue.updateFrom]
    split <;> rfl
  simp only [SSessionCache.updateSomeValues, hfrom]
  split <;> rfl

theorem updateChild_apply (mapParent : Index String String)
    (cache : Store String SSessionCache) (s : String) (info : SSessionCache) (c : String) :
    pcrfSessionCacheUpdateChild mapParent cache s info c =
      if c ∈ mapParent.entries s then (cache c).map (·.updateSomeValues info) else cache c := by
  -- the update of one child, as a later lookup sees it
  have hone : ∀ (cache : Store String SSessionCache) (d : String),
      pcrfSessionCacheUpdateSomeValues cache d info c =
        if c = d then (cache c).map (·.updateSomeValues info) else cache c := by
    intro cache d
    simp only [pcrfSessionCacheUpdateSomeValues]
    by_cases hcd : c = d
    · subst hcd
      cases hc : cache c <;> simp [hc]
    · cases hd : cache d <;> simp [hcd]
  simp only [pcrfSessionCacheUpdateChild]
  induction mapParent.entries s generalizing cache with
  | nil => simp
  | cons d children ih =>
    rw [List.foldl_cons, ih, hone]
    by_cases hcd : c = d
    · -- a child that is listed twice is updated twice, with the same outcome
      have htwice : ∀ r : Option SSessionCache,
          (r.map (·.updateSomeValues info)).map (·.updateSomeValues info) =
            r.map (·.updateSomeValues info) := by
        intro r
        cases r <;> simp [updateSomeValues_idem]
      simp [hcd, htwice]
    · simp [hcd]

/-- Replacing a record touches neither index. -/
theorem insertLocal_indexes {st : SessionCacheState} {s : String} {old : SSessionCache}
    (hs : st.umapSessionCache s = some old) (info : SSessionCache) (parent : Option String)
    (dialect : PeerDialect) :
    (pcrfSessionCacheInsertLocal st s info parent dialect).mapFramedIPIndex =
        st.mapFramedIPIndex ∧
      (pcrfSessionCacheInsertLocal st s info parent dialect).mapSubscriberId =
        st.mapSubscriberId := by
  simp only [pcrfSessionCacheInsertLocal, hs, and_self]

/-- Replacing a record also updates the records of the children. -/
theorem insertLocal_cached {st : SessionCacheState} {s : String} {old : SSessionCache}
    (hs : st.umapSessionCache s = some old) (info : SSessionCache) (parent : Option String)
    (dialect : PeerDialect) (c : String) :
    (pcrfSessionCacheInsertLocal st s info parent dialect).umapSessionCache c =
      if c = s then some info
      else if c ∈ st.links.mapParent.entries s then
        (st.umapSessionCache c).map (·.updateSomeValues info)
      else st.umapSessionCache c := by
  simp only [pcrfSessionCacheInsertLocal, hs, updateChild_apply]
  by_cases hc : c = s
  · subst hc
    simp [updateSomeValues_self]
  · simp [hc]

/-! ### Keys of the records -/

/-- The key under which an index over `field` lists a session, by the record that is cached;
`listed` says which sessions the index covers. -/
def recordKey (project : OtlValue String → Option String)
    (field : SSessionCache → OtlValue String) (listed : String → Bool)
    (cache : Store String SSessionCache) (s : String) : Option String :=
  (cache s).bind fun record => if listed s then project (field record) else none

/-- Replacing the record of `s` by `info` gives neither `s` nor a child of `s` another key. -/
def KeepsKeys (project : OtlValue String → Option String)
    (field : SSessionCache → OtlValue String) (listed : String → Bool) (listedNow : Bool)
    (st : SessionCacheState) (s : String) (info : SSessionCache) : Prop :=
  (if listedNow then project (field info) else none) =
      recordKey project field listed st.umapSessionCache s ∧
    ∀ c ∈ st.links.mapParent.entries s, c ≠ s → listed c = true →
      ∀ record, st.umapSessionCache c = some record →
        (field info).isNull = true ∨ project (field info) = project (field record)

section Keys

variable {project : OtlValue String → Option String} {field : SSessionCache → OtlValue String}
  {listed listed' : String → Bool} {st : SessionCacheState} {s : String}

private theorem updated_key_iff (old new : OtlValue String) :
    project (old.updateFrom new) = project old ↔
      new.isNull = true ∨ project new = project old := by
  simp only [OtlValue.updateFrom]
  split
  next h => simp [h]
  next h => simp [h]

theorem replaced_key_iff
    (hfield : ∀ old new, field (old.updateSomeValues new) = (field old).updateFrom (field new))
    {old : SSessionCache} (hs : st.umapSessionCache s = some old) (info : SSessionCache)
    (parent : Option String) (dialect : PeerDialect) {listedNow : Bool}
    (hself : listed' s = listedNow) (hother : ∀ c, c ≠ s → listed' c = listed c) :
    recordKey project field listed'
        (pcrfSessionCacheInsertLocal st s info parent dialect).umapSessionCache =
      recordKey project field listed st.umapSessionCache ↔
    KeepsKeys project field listed listedNow st s info := by
  rw [funext_iff]
  have hcache := insertLocal_cached hs info parent dialect
  -- for a session other than `s` only an update as a child can make a difference
  have hkey : ∀ c, c ≠ s →
      (recordKey project field listed'
          (pcrfSessionCacheInsertLocal st s info parent dialect).umapSessionCache c =
        recordKey project field listed st.umapSessionCache c ↔
      (c ∈ st.links.mapParent.entries s → listed c = true →
        ∀ record, st.umapSessionCache c = some record →
          (field info).isNull = true ∨ project (field info) = project (field record))) := by
    intro c hc
    simp only [recordKey, hcache, hc, if_false, hother c hc]
    by_cases hmem : c ∈ st.links.mapParent.entries s
    · cases hrec : st.umapSessionCache c with
      | none => simp [hmem]
      | some record =>
        simp only [hmem, if_true, Option.map_some, Option.bind_some, hfield, true_implies]
        cases hl : listed c with
        | false => simp
        | true => simp [updated_key_iff]
    · simp [hmem]
  constructor
  · intro h
    refine ⟨?_, fun c hmem hc => (hkey c hc).mp (h c) hmem⟩
    have hnow := h s
    simpa only [recordKey, hcache, if_true, Option.bind_some, hself] using hnow
  · intro h c
    by_cases hc : c = s
    · subst hc
      simpa only [recordKey, hcache, if_true, Option.bind_some, hself] using h.1
    · exact (hkey c hc).mpr fun hmem => h.2 c hmem hc

theorem created_key (hs : st.umapSessionCache s = none) (info : SSessionCache)
    (parent : Option String) (dialect : PeerDialect)
    (hother : ∀ c, c ≠ s → listed' c = listed c) :
    recordKey project field listed'
        (pcrfSessionCacheInsertLocal st s info parent dialect).umapSessionCache =
      Function.update (recordKey project field listed st.umapSessionCache) s
        (if listed' s then project (field info) else none) := by
  funext c
  simp only [pcrfSessionCacheInsertLocal, hs, recordKey, Function.update_apply]
  by_cases hc : c = s
  · subst hc
    simp
  · simp [hc, hother c hc]

theorem removed_key (hother : ∀ c, c ≠ s → listed' c = listed c) :
    recordKey project field listed' (pcrfSessionCacheRemoveLocal st s).1.umapSessionCache =
      Function.update (recordKey project field listed st.umapSessionCache) s none := by
  funext c
  simp only [pcrfSessionCacheRemoveLocal, recordKey, Function.update_apply]
  by_cases hc : c = s
  · subst hc
    cases hs : st.umapSessionCache c <;> simp [hs]
  · cases hs : st.umapSessionCache s <;> simp [hc, hother c hc]

end Keys

/-! ### The Framed-IP-Address index -/

/-- The cache together with the dialect each cached session was last inserted with, which the
cache itself does not keep. -/
structure TrackedCache where
  cache : SessionCacheState := {}
  dialects : Store String PeerDialect := Store.empty

namespace TrackedCache

def apply (t : TrackedCache) (op : CacheOp) : TrackedCache where
  cache := t.cache.apply op
  dialects :=
    match op with
    | .insertLocal s _ _ dialect => t.dialects.set s dialect
    | .removeLocal s => t.dialects.erase s

def isIPCAN (t : TrackedCache) (s : String) : Bool := (t.dialects s).any PeerDialect.isIPCAN

/-- The address a session is to be found under, as far as `project` gives it one. -/
def addressKey (project : OtlValue String → Option String) (t : TrackedCache) :
    String → Option String :=
  recordKey project SSessionCache.coFramedIPAddr t.isIPCAN t.cache.umapSessionCache

end TrackedCache

def trackedCacheMachine : Machine TrackedCache CacheOp where
  init := {}
  step := TrackedCache.apply

theorem trackedCache_run (ops : List CacheOp) :
    (trackedCacheMachine.run ops).cache = sessionCacheMachine.run ops := by
  induction ops using List.reverseRecOn with
  | nil => rfl
  | append_singleton ops op ih =>
    rw [Machine.run_snoc, Machine.run_snoc, ← ih]
    rfl

/-- A call that leaves the index of addresses in order: a record created for an IP-CAN peer
has an address, and a record that replaces another one changes no address that is indexed. -/
def AddressKept (project : OtlValue String → Option String) (t : TrackedCache) :
    CacheOp → Prop
  | .insertLocal s info _ dialect =>
    match t.cache.umapSessionCache s with
    | none => dialect.isIPCAN = true → (project info.coFramedIPAddr).isSome = true
    | some _ =>
      KeepsKeys project SSessionCache.coFramedIPAddr t.isIPCAN dialect.isIPCAN t.cache s info
  | .removeLocal _ => True

section Address

variable {project : OtlValue String → Option String}

private theorem isIPCAN_insert (t : TrackedCache) (s : String) (info : SSessionCache)
    (parent : Option String) (dialect : PeerDialect) :
    (t.apply (.insertLocal s info parent dialect)).isIPCAN s = dialect.isIPCAN ∧
      ∀ c, c ≠ s → (t.apply (.insertLocal s info parent dialect)).isIPCAN c = t.isIPCAN c := by
  constructor
  · simp [TrackedCache.isIPCAN, TrackedCache.apply]
  · intro c hc
    simp [TrackedCache.isIPCAN, TrackedCache.apply, hc]

private theorem created_exact_iff (hproject : ∀ o, project o = none ∨ project o = some o.v)
    {t : TrackedCache} {s : String} (hs : t.cache.umapSessionCache s = none)
    (info : SSessionCache) (parent : Option String) (dialect : PeerDialect)
    (h : t.cache.mapFramedIPIndex.Exact (t.addressKey project)) :
    (t.apply (.insertLocal s info parent dialect)).cache.mapFramedIPIndex.Exact
        ((t.apply (.insertLocal s info parent dialect)).addressKey project) ↔
      (dialect.isIPCAN = true → (project info.coFramedIPAddr).isSome = true) := by
  obtain ⟨hself, hother⟩ := isIPCAN_insert t s info parent dialect
  have hkey : (t.apply (.insertLocal s info parent dialect)).addressKey project =
      Function.update (t.addressKey project) s
        (if dialect.isIPCAN then project info.coFramedIPAddr else none) := by
    rw [← hself]
    exact created_key hs info parent dialect hother
  have hold : t.addressKey project s = none := by
    simp [TrackedCache.addressKey, recordKey, hs]
  have hindex : (t.apply (.insertLocal s info parent dialect)).cache.mapFramedIPIndex =
      if dialect.isIPCAN then t.cache.mapFramedIPIndex.push info.coFramedIPAddr.v s
      else t.cache.mapFramedIPIndex := by
    simp only [TrackedCache.apply, SessionCacheState.apply, pcrfSessionCacheInsertLocal, hs]
    rfl
  rw [hkey, hindex]
  cases hd : dialect.isIPCAN with
  | false =>
    -- a session of another dialect is not listed and has no key
    have hsame : Function.update (t.addressKey project) s none = t.addressKey project := by
      rw [← hold, Function.update_eq_self]
    simp [hsame, h]
  | true =>
    have hpushed := h.push (k := info.coFramedIPAddr.v) hold
    rcases hproject info.coFramedIPAddr with hp | hp
    · -- the session is listed, but an absent address is no key
      have hne : Function.update (t.addressKey project) s none ≠
          Function.update (t.addressKey project) s (some info.coFramedIPAddr.v) := by
        intro heq
        simpa using congrFun heq s
      simp [hp, hpushed.iff_key_eq, hne]
    · simp [hp, hpushed]

private theorem replaced_exact_iff {t : TrackedCache} {s : String} {old : SSessionCache}
    (hs : t.cache.umapSessionCache s = some old)
    (info : SSessionCache) (parent : Option String) (dialect : PeerDialect)
    (h : t.cache.mapFramedIPIndex.Exact (t.addressKey project)) :
    (t.apply (.insertLocal s info parent dialect)).cache.mapFramedIPIndex.Exact
        ((t.apply (.insertLocal s info parent dialect)).addressKey project) ↔
      KeepsKeys project SSessionCache.coFramedIPAddr t.isIPCAN dialect.isIPCAN t.cache s
        info := by
  obtain ⟨hself, hother⟩ := isIPCAN_insert t s info parent dialect
  have hindex : (t.apply (.insertLocal s info parent dialect)).cache.mapFramedIPIndex =
      t.cache.mapFramedIPIndex := (insertLocal_indexes hs info parent dialect).1
  -- the index is not touched, so it stays exact only if no key has changed
  rw [hindex, h.iff_key_eq]
  exact replaced_key_iff (fun _ _ => rfl) hs info parent dialect hself hother

private theorem removed_exact (hproject : ∀ o, project o = none ∨ project o = some o.v)
    {t : TrackedCache} (s : String)
    (h : t.cache.mapFramedIPIndex.Exact (t.addressKey project)) :
    (t.apply (.removeLocal s)).cache.mapFramedIPIndex.Exact
      ((t.apply (.removeLocal s)).addressKey project) := by
  have hother : ∀ c, c ≠ s → (t.apply (.removeLocal s)).isIPCAN c = t.isIPCAN c := by
    intro c hc
    simp [TrackedCache.isIPCAN, TrackedCache.apply, hc]
  have hkey : (t.apply (.removeLocal s)).addressKey project =
      Function.update (t.addressKey project) s none := removed_key hother
  rw [hkey]
  cases hs : t.cache.umapSessionCache s with
  | none =>
    -- what is not cached has no key that could be lost
    have hold : t.addressKey project s = none := by
      simp [TrackedCache.addressKey, recordKey, hs]
    rw [← hold, Function.update_eq_self]
    simpa only [TrackedCache.apply, SessionCacheState.apply, pcrfSessionCacheRemoveLocal, hs]
      using h
  | some record =>
    -- the record is looked up under the address it has now, which is its key or none at all
    have hold : t.addressKey project s = none ∨
        t.addressKey project s = some record.coFramedIPAddr.v := by
      simp only [TrackedCache.addressKey, recordKey, hs, Option.bind_some]
      split
      · exact hproject _
      · exact .inl rfl
    have hindex : (t.apply (.removeLocal s)).cache.mapFramedIPIndex =
        t.cache.mapFramedIPIndex.purge record.coFramedIPAddr.v s := by
      simp only [TrackedCache.apply, SessionCacheState.apply, pcrfSessionCacheRemoveLocal, hs]
      rfl
    rw [hindex]
    exact h.purge hold

/-- One call keeps the index exact if and only if it meets `AddressKept`. -/
theorem apply_exact_iff (hproject : ∀ o, project o = none ∨ project o = some o.v)
    (t : TrackedCache) (op : CacheOp)
    (h : t.cache.mapFramedIPIndex.Exact (t.addressKey project)) :
    (t.apply op).cache.mapFramedIPIndex.Exact ((t.apply op).addressKey project) ↔
      AddressKept project t op := by
  cases op with
  | insertLocal s info parent dialect =>
    simp only [AddressKept]
    cases hs : t.cache.umapSessionCache s with
    | none => exact created_exact_iff hproject hs info parent dialect h
    | some old => exact replaced_exact_iff hs info parent dialect h
  | removeLocal s => exact iff_true_intro (removed_exact hproject s h)

theorem empty_exact : trackedCacheMachine.init.cache.mapFramedIPIndex.Exact
    (trackedCacheMachine.init.addressKey project) :=
  ⟨Index.Inverts.empty, Index.Distinct.empty⟩

end Address

/-- The index lists under each address exactly the cached IP-CAN sessions that have it. -/
def FramedIPIndexExact (t : TrackedCache) : Prop :=
  ∀ address, (t.cache.mapFramedIPIndex.entries address).Nodup ∧
    ∀ s, s ∈ t.cache.mapFramedIPIndex.entries address ↔
      ∃ record, t.cache.umapSessionCache s = some record ∧ t.isIPCAN s = true ∧
        record.coFramedIPAddr.isNull = false ∧ record.coFramedIPAddr.v = address

theorem framedIPIndexExact_iff (t : TrackedCache) :
    FramedIPIndexExact t ↔
      t.cache.mapFramedIPIndex.Exact (t.addressKey OtlValue.toOption) := by
  have hkey : ∀ s address, t.addressKey OtlValue.toOption s = some address ↔
      ∃ record, t.cache.umapSessionCache s = some record ∧ t.isIPCAN s = true ∧
        record.coFramedIPAddr.isNull = false ∧ record.coFramedIPAddr.v = address := by
    intro s address
    simp only [TrackedCache.addressKey, recordKey, Option.bind_eq_some_iff,
      Option.ite_none_right_eq_some, OtlValue.toOption_eq_some]
  constructor
  · exact fun h => ⟨fun address s => ((h address).2 s).trans (hkey s address).symm,
      fun address => (h address).1⟩
  · exact fun h address => ⟨h.2 address, fun s => (h.1 address s).trans (hkey s address)⟩

private theorem toOption_none_or (o : OtlValue String) :
    o.toOption = none ∨ o.toOption = some o.v := by
  simp only [OtlValue.toOption]
  split <;> simp

/-- The index of addresses is exact in every state of a run if and only if every call of the
run keeps the indexed addresses. -/
theorem framedIPIndex_exact_iff (ops : List CacheOp) :
    (∀ pre, pre <+: ops → FramedIPIndexExact (trackedCacheMachine.run pre)) ↔
      trackedCacheMachine.Meets (AddressKept OtlValue.toOption) ops := by
  simp only [framedIPIndexExact_iff]
  exact trackedCacheMachine.always_iff_meets
    (I := fun t => t.cache.mapFramedIPIndex.Exact (t.addressKey OtlValue.toOption))
    empty_exact (apply_exact_iff toOption_none_or) ops

/-- A session that is created without address and gets one with the next record. -/
def lateAddressRun : List CacheOp :=
  [.insertLocal "gx;1;1" {} none .gxHwUgw,
   .insertLocal "gx;1;1" { coFramedIPAddr := .of "10.0.0.1" } none .gxHwUgw]

/-- The index does not find it under its address. -/
theorem lateAddressRun_not_exact :
    ¬ FramedIPIndexExact (trackedCacheMachine.run lateAddressRun) := by
  intro h
  have hlisted := ((h "10.0.0.1").2 "gx;1;1").mpr
    ⟨{ coFramedIPAddr := .of "10.0.0.1" }, rfl, rfl, rfl, rfl⟩
  exact absurd hlisted (by decide)

end Pcrf
