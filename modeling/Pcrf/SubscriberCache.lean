import Pcrf.RuleCacheReload

/-!
`pcrf_subscriber_cache.cpp`: the identifiers of the subscribers, looked up under a read lock by
the requests and replaced under the write lock by a reload.
-/

namespace Pcrf

open Lib

/-! ### The cache -/

/-- `DIAM_END_USER_E164` … `DIAM_END_USER_PRIVATE` -/
inductive SubscriberIdType where
  | endUserE164
  | endUserIMSI
  | endUserSIPURI
  | endUserNAI
  | endUserPrivate
  deriving Repr, DecidableEq

/-- `g_pmmapSubscriptionData`: for each type, the subscriber of a value. An insertion lets no
empty subscriber id in. -/
structure SubscriberCache where
  data : SubscriberIdType → Store String String
  named : ∀ type value subscriberId, data type value = some subscriberId → subscriberId ≠ ""

namespace SubscriberCache

def empty : SubscriberCache := ⟨fun _ => Store.empty, by simp⟩

/-- `std::unordered_map::insert`, which keeps the entry that is there. -/
def put (cache : SubscriberCache) (type : SubscriberIdType) (value subscriberId : String)
    (h : subscriberId ≠ "") : SubscriberCache where
  data := fun t =>
    if t = type ∧ cache.data type value = none then (cache.data type).set value subscriberId
    else cache.data t
  named := by
    intro t v id hid
    split at hid
    next =>
      by_cases hv : v = value
      · subst hv
        rw [Store.set_self, Option.some_inj] at hid
        exact hid ▸ h
      · rw [Store.set_of_ne hv] at hid
        exact cache.named _ _ _ hid
    next => exact cache.named _ _ _ hid

/-- `pcrf_subscriber_cache_insert` -/
def insert (cache : SubscriberCache) (type : SubscriberIdType) (coValue : OtlValue String)
    (subscriberId : String) : SubscriberCache :=
  if h : coValue.isNull = false ∧ subscriberId ≠ "" then
    cache.put type coValue.v subscriberId h.2
  else cache

end SubscriberCache

/-- A row of `ps.subscription_data`. -/
structure SubscriptionRow where
  strSubscriberId : String
  coEndUserE164 : OtlValue String := .empty
  coEndUserIMSI : OtlValue String := .empty
  coEndUserSIPURI : OtlValue String := .empty
  coEndUserNAI : OtlValue String := .empty
  coEndUserPrivate : OtlValue String := .empty
  deriving Repr, DecidableEq

/-- The insertions for one row. The variables for the first two values have each other's names,
and so have the types that they are inserted under. -/
def SubscriberCache.loadRow (cache : SubscriberCache) (row : SubscriptionRow) :
    SubscriberCache :=
  ((((cache.insert .endUserE164 row.coEndUserE164 row.strSubscriberId).insert
    .endUserIMSI row.coEndUserIMSI row.strSubscriberId).insert
    .endUserSIPURI row.coEndUserSIPURI row.strSubscriberId).insert
    .endUserNAI row.coEndUserNAI row.strSubscriberId).insert
    .endUserPrivate row.coEndUserPrivate row.strSubscriberId

/-! ### The lock -/

/-- `g_rwlockCache`. What is done under the write lock is one assignment, so that between two
calls only readers hold it. -/
structure RwLock where
  readers : Nat := 0
  deriving Repr, DecidableEq

namespace RwLock

def rdlock (lock : RwLock) : RwLock := ⟨lock.readers + 1⟩

def unlock (lock : RwLock) : RwLock := ⟨lock.readers - 1⟩

/-- The write lock is obtained when nobody reads. -/
def writable (lock : RwLock) : Bool := lock.readers == 0

@[simp] theorem unlock_rdlock (lock : RwLock) : lock.rdlock.unlock = lock := rfl

end RwLock

/-- What a reload meets: `g_iCacheWork` and what the query for the rows returns. -/
structure SubscriberReload where
  iCacheWork : Int
  load : Int × List SubscriptionRow

/-- `pcrf_subscriber_cache_reload`: `none` when it waits for the readers. -/
def pcrfSubscriberCacheReload (env : SubscriberReload) (lock : RwLock)
    (cache : SubscriberCache) : Option (Int × SubscriberCache) :=
  if env.iCacheWork = 0 then some (ECANCELED, cache)
  else if env.load.1 ≠ 0 then some (env.load.1, cache)
  else if lock.writable then some (0, env.load.2.foldl SubscriberCache.loadRow .empty)
  else none

/-! ### The lookups -/

/-- The result, the lock and the subscriber found so far. `rdlock` is the code of taking the
lock. A value that is not found, or is another subscriber's, ends the call with the lock held. -/
def pcrfSubscriberCacheCheckData (rdlock : Int) (cache : SubscriberCache)
    (type : SubscriberIdType) (coData : OtlValue String) (lock : RwLock)
    (strSubscriberId : String) : Bool × RwLock × String :=
  if coData.isNull then (true, lock, strSubscriberId)
  else if rdlock ≠ 0 then (false, lock, strSubscriberId)
  else
    match cache.data type coData.v with
    | none => (true, lock.rdlock, strSubscriberId)
    | some found =>
      if strSubscriberId.length = 0 then (true, lock.rdlock.unlock, found)
      else if strSubscriberId = found then (true, lock.rdlock.unlock, strSubscriberId)
      else (false, lock.rdlock, strSubscriberId)

/-- The lookups one after another, up to the first that fails. -/
def checkAll (rdlock : SubscriberIdType → Int) (cache : SubscriberCache) :
    List (SubscriberIdType × String) → RwLock → String → Bool × RwLock × String
  | [], lock, strSubscriberId => (true, lock, strSubscriberId)
  | (type, value) :: rest, lock, strSubscriberId =>
    match pcrfSubscriberCacheCheckData (rdlock type) cache type (.of value) lock
      strSubscriberId with
    | (true, lock', strSubscriberId') => checkAll rdlock cache rest lock' strSubscriberId'
    | (false, lock', strSubscriberId') => (false, lock', strSubscriberId')

/-- The values that are looked up. They are passed as plain strings, so that an identifier that
is absent is looked up too, by the string in it. -/
def SSubscriptionIdData.lookups (data : SSubscriptionIdData) :
    List (SubscriberIdType × String) :=
  [(.endUserIMSI, data.coEndUserIMSI.v), (.endUserE164, data.coEndUserE164.v),
    (.endUserSIPURI, data.coEndUserSIPURI.v), (.endUserNAI, data.coEndUserNAI.v),
    (.endUserPrivate, data.coEndUserPrivate.v)]

def pcrfSubscriberCacheGetSubscriberId (rdlock : SubscriberIdType → Int)
    (cache : SubscriberCache) (data : SSubscriptionIdData) (lock : RwLock) :
    Int × RwLock × String :=
  match checkAll rdlock cache data.lookups lock "" with
  | (true, lock', strSubscriberId) => (0, lock', strSubscriberId)
  | (false, lock', _) => (EINVAL, lock', "")

/-! ### The balance of the lock -/

/-- A call gives back what it takes of the lock, and a reload that could write before can write
after it. -/
structure KeepsLock (cache : SubscriberCache) (data : SSubscriptionIdData) : Prop where
  readers : ∀ rdlock lock,
    (pcrfSubscriberCacheGetSubscriberId rdlock cache data lock).2.1.readers = lock.readers
  reload : ∀ rdlock lock env,
    (pcrfSubscriberCacheReload env lock cache).isSome = true →
    (pcrfSubscriberCacheReload env
      (pcrfSubscriberCacheGetSubscriberId rdlock cache data lock).2.1 cache).isSome = true

/-- All values are known, and they are of one subscriber. -/
def OneSubscriber (cache : SubscriberCache) (data : SSubscriptionIdData) : Prop :=
  ∃ subscriberId, ∀ lookup ∈ data.lookups, cache.data lookup.1 lookup.2 = some subscriberId

section

variable {rdlock : SubscriberIdType → Int} {cache : SubscriberCache}

/-- What a lookup makes of the number of readers. -/
theorem checkData_readers (code : Int) (cache : SubscriberCache) (type : SubscriberIdType)
    (value : String) (lock : RwLock) (strSubscriberId : String) :
    lock.readers ≤
      (pcrfSubscriberCacheCheckData code cache type (.of value) lock
        strSubscriberId).2.1.readers := by
  unfold pcrfSubscriberCacheCheckData
  simp only [OtlValue.isNull_of, Bool.false_eq_true, if_false]
  split
  · exact Nat.le_refl _
  · split
    · exact Nat.le_succ _
    · split
      · exact Nat.le_refl _
      · split
        · exact Nat.le_refl _
        · exact Nat.le_succ _

theorem checkAll_readers (rdlock : SubscriberIdType → Int) (cache : SubscriberCache)
    (lookups : List (SubscriberIdType × String)) (lock : RwLock) (strSubscriberId : String) :
    lock.readers ≤ (checkAll rdlock cache lookups lock strSubscriberId).2.1.readers := by
  induction lookups generalizing lock strSubscriberId with
  | nil => exact Nat.le_refl _
  | cons lookup rest ih =>
    obtain ⟨type, value⟩ := lookup
    have first := checkData_readers (rdlock type) cache type value lock strSubscriberId
    unfold checkAll
    split
    next lock' strSubscriberId' h =>
      rw [h] at first
      exact first.trans (ih lock' strSubscriberId')
    next lock' strSubscriberId' h =>
      rw [h] at first
      exact first

/-- The subscriber found so far, when there is one, is the given one. -/
def Agrees (strSubscriberId subscriberId : String) : Prop :=
  strSubscriberId = "" ∨ strSubscriberId = subscriberId

/-- A lookup that finds the subscriber leaves the lock as it was. -/
theorem checkData_of_found {type : SubscriberIdType} {value subscriberId strSubscriberId : String}
    (found : cache.data type value = some subscriberId)
    (agrees : Agrees strSubscriberId subscriberId) (lock : RwLock) :
    pcrfSubscriberCacheCheckData 0 cache type (.of value) lock strSubscriberId =
      (true, lock, subscriberId) := by
  simp only [pcrfSubscriberCacheCheckData, OtlValue.isNull_of, OtlValue.v_of, found]
  rcases agrees with rfl | rfl
  · simp
  · have named := cache.named _ _ _ found
    simp [named]

/-- Any other lookup leaves it held once more. -/
theorem checkData_of_not_found {type : SubscriberIdType} {value strSubscriberId : String}
    (h : ∀ subscriberId, cache.data type value = some subscriberId →
      ¬ Agrees strSubscriberId subscriberId) (lock : RwLock) :
    (pcrfSubscriberCacheCheckData 0 cache type (.of value) lock strSubscriberId).2.1 =
      lock.rdlock := by
  simp only [pcrfSubscriberCacheCheckData, OtlValue.isNull_of, OtlValue.v_of]
  cases found : cache.data type value with
  | none => simp
  | some subscriberId =>
    have differs := h subscriberId found
    simp only [Agrees, not_or] at differs
    simp [differs.1, differs.2]

/-- Without a failure of the lock the lookups leave it as it was exactly when they all find one
subscriber. -/
theorem checkAll_readers_iff (lookups : List (SubscriberIdType × String)) (lock : RwLock)
    (strSubscriberId : String) :
    (checkAll (fun _ => 0) cache lookups lock strSubscriberId).2.1.readers = lock.readers ↔
      ∃ subscriberId, Agrees strSubscriberId subscriberId ∧
        ∀ lookup ∈ lookups, cache.data lookup.1 lookup.2 = some subscriberId := by
  -- after the first lookup the subscriber is known, so it is generalised
  induction lookups generalizing lock strSubscriberId with
  | nil => exact ⟨fun _ => ⟨strSubscriberId, .inr rfl, by simp⟩, fun _ => rfl⟩
  | cons lookup rest ih =>
    obtain ⟨type, value⟩ := lookup
    by_cases hfound : ∃ subscriberId, cache.data type value = some subscriberId ∧
        Agrees strSubscriberId subscriberId
    · obtain ⟨subscriberId, found, agrees⟩ := hfound
      have named := cache.named _ _ _ found
      simp only [checkAll, checkData_of_found found agrees, ih]
      constructor
      · rintro ⟨other, same, all⟩
        obtain rfl : subscriberId = other := same.resolve_left named
        exact ⟨subscriberId, agrees, List.forall_mem_cons.mpr ⟨found, all⟩⟩
      · rintro ⟨other, -, all⟩
        obtain ⟨first, all⟩ := List.forall_mem_cons.mp all
        obtain rfl : subscriberId = other := Option.some_inj.mp (found.symm.trans first)
        exact ⟨subscriberId, .inr rfl, all⟩
    · have held := checkData_of_not_found (fun id hid hagrees => hfound ⟨id, hid, hagrees⟩) lock
      constructor
      · intro h
        -- the reader that was left is not taken away by the lookups that follow
        have more : lock.readers + 1 ≤
            (checkAll (fun _ => 0) cache ((type, value) :: rest) lock
              strSubscriberId).2.1.readers := by
          unfold checkAll
          split
          next lock' strSubscriberId' heq =>
            rw [heq] at held
            obtain rfl : lock' = lock.rdlock := held
            exact checkAll_readers (fun _ => 0) cache rest lock.rdlock strSubscriberId'
          next lock' strSubscriberId' heq =>
            rw [heq] at held
            obtain rfl : lock' = lock.rdlock := held
            exact Nat.le_refl _
        omega
      · rintro ⟨subscriberId, agrees, all⟩
        exact absurd ⟨subscriberId, (List.forall_mem_cons.mp all).1, agrees⟩ hfound

/-- A failure of the lock only ends the lookups earlier. -/
theorem checkAll_of_agrees {lookups : List (SubscriberIdType × String)} {subscriberId : String}
    (all : ∀ lookup ∈ lookups, cache.data lookup.1 lookup.2 = some subscriberId) (lock : RwLock)
    {strSubscriberId : String} (agrees : Agrees strSubscriberId subscriberId) :
    (checkAll rdlock cache lookups lock strSubscriberId).2.1 = lock := by
  induction lookups generalizing strSubscriberId with
  | nil => rfl
  | cons lookup rest ih =>
    obtain ⟨type, value⟩ := lookup
    obtain ⟨found, all⟩ := List.forall_mem_cons.mp all
    by_cases hcode : rdlock type = 0
    · simp only [checkAll, hcode, checkData_of_found found agrees]
      exact ih all (.inr rfl)
    · simp [checkAll, pcrfSubscriberCacheCheckData, hcode]

end

theorem getSubscriberId_lock (rdlock : SubscriberIdType → Int) (cache : SubscriberCache)
    (data : SSubscriptionIdData) (lock : RwLock) :
    (pcrfSubscriberCacheGetSubscriberId rdlock cache data lock).2.1 =
      (checkAll rdlock cache data.lookups lock "").2.1 := by
  unfold pcrfSubscriberCacheGetSubscriberId
  split <;> simp_all

theorem getSubscriberId_readers_iff (cache : SubscriberCache) (data : SSubscriptionIdData)
    (lock : RwLock) :
    (pcrfSubscriberCacheGetSubscriberId (fun _ => 0) cache data lock).2.1.readers =
      lock.readers ↔ OneSubscriber cache data := by
  rw [getSubscriberId_lock, checkAll_readers_iff]
  constructor
  · rintro ⟨subscriberId, -, all⟩
    exact ⟨subscriberId, all⟩
  · rintro ⟨subscriberId, all⟩
    exact ⟨subscriberId, .inl rfl, all⟩

/-- The lock after calls between two reloads. -/
def lockAfter (cache : SubscriberCache) (calls : List SSubscriptionIdData) (lock : RwLock) :
    RwLock :=
  calls.foldl (fun lock data =>
    (pcrfSubscriberCacheGetSubscriberId (fun _ => 0) cache data lock).2.1) lock

theorem lockAfter_readers (cache : SubscriberCache) (calls : List SSubscriptionIdData)
    (lock : RwLock) : lock.readers ≤ (lockAfter cache calls lock).readers := by
  induction calls generalizing lock with
  | nil => exact Nat.le_refl _
  | cons data calls ih =>
    have first := checkAll_readers (fun _ => 0) cache data.lookups lock ""
    rw [← getSubscriberId_lock] at first
    exact first.trans (ih _)

/-- The next reload obtains the lock exactly when every call found its one subscriber. -/
theorem writable_lockAfter_iff (cache : SubscriberCache) (calls : List SSubscriptionIdData) :
    (lockAfter cache calls {}).writable = true ↔ ∀ data ∈ calls, OneSubscriber cache data := by
  have balanced : ∀ lock : RwLock, (lockAfter cache calls lock).readers = lock.readers ↔
      ∀ data ∈ calls, OneSubscriber cache data := by
    induction calls with
    | nil => simp [lockAfter]
    | cons data calls ih =>
      intro lock
      have first := getSubscriberId_readers_iff cache data lock
      have later := ih (pcrfSubscriberCacheGetSubscriberId (fun _ => 0) cache data lock).2.1
      have grows := lockAfter_readers cache [data] lock
      have rest := lockAfter_readers cache calls
        (pcrfSubscriberCacheGetSubscriberId (fun _ => 0) cache data lock).2.1
      rw [List.forall_mem_cons, ← first, ← later]
      simp only [lockAfter, List.foldl_cons, List.foldl_nil] at grows rest ⊢
      omega
  rw [← balanced {}]
  simp [RwLock.writable]

theorem keepsLock_iff (cache : SubscriberCache) (data : SSubscriptionIdData) :
    KeepsLock cache data ↔ OneSubscriber cache data := by
  constructor
  · intro keeps
    have balanced := keeps.readers (fun _ => 0) {}
    exact (getSubscriberId_readers_iff cache data {}).mp balanced
  · rintro ⟨subscriberId, all⟩
    have same : ∀ rdlock lock,
        (pcrfSubscriberCacheGetSubscriberId rdlock cache data lock).2.1 = lock := by
      intro rdlock lock
      rw [getSubscriberId_lock]
      exact checkAll_of_agrees all lock (.inl rfl)
    refine ⟨fun rdlock lock => by rw [same], fun rdlock lock env h => ?_⟩
    rwa [same]

/-- A subscriber who gives nothing but the IMSI: the reload that follows waits for ever. -/
theorem not_keepsLock_imsiOnly : ¬ ∀ cache data, KeepsLock cache data := by
  intro keeps
  have waits := (keeps
    (SubscriberCache.empty.loadRow { strSubscriberId := "1", coEndUserIMSI := .of "250990" })
    { coEndUserIMSI := .of "250990" }).reload (fun _ => 0) {} ⟨1, 0, []⟩ rfl
  exact absurd waits (by decide)

end Pcrf
