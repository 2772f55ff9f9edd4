import Pcrf.SubscriberCache

/-!
What `pcrf_subscriber_cache_get_subscriber_id` answers: the one subscriber that all the known
identifiers of a request belong to. The lookups pass on the subscriber found so far, which is the
result and what the next one is compared with.
-/

namespace Pcrf

open Lib

/-! ### The identifiers of a request -/

/-- The identifiers that a request gives. -/
abbrev Identifiers := SubscriberIdType → Option String

namespace Identifiers

/-- What is not given is a null value with the empty string in it. -/
def coValue (ids : Identifiers) (type : SubscriberIdType) : OtlValue String :=
  (ids type).elim .empty .of

def subscriptionData (ids : Identifiers) : SSubscriptionIdData where
  coEndUserE164 := ids.coValue .endUserE164
  coEndUserIMSI := ids.coValue .endUserIMSI
  coEndUserSIPURI := ids.coValue .endUserSIPURI
  coEndUserNAI := ids.coValue .endUserNAI
  coEndUserPrivate := ids.coValue .endUserPrivate

/-- The subscriber of an identifier that is given and that the cache knows under its type. -/
def known (ids : Identifiers) (cache : SubscriberCache) (type : SubscriberIdType) :
    Option String :=
  (ids type).bind (cache.data type)

end Identifiers

/-- The code and the subscriber of a call, when the lock is granted. -/
def subscriberAnswer (cache : SubscriberCache) (data : SSubscriptionIdData) (lock : RwLock) :
    Int × String :=
  let result := pcrfSubscriberCacheGetSubscriberId (fun _ => 0) cache data lock
  (result.1, result.2.2)

/-- What the identifiers that are known decide, and nothing else does. -/
structure AnswersKnown (cache : SubscriberCache) (ids : Identifiers) (lock : RwLock) :
    Prop where
  one : ∀ subscriberId, (∃ type, ids.known cache type = some subscriberId) →
    (∀ type other, ids.known cache type = some other → other = subscriberId) →
    subscriberAnswer cache ids.subscriptionData lock = (0, subscriberId)
  unknown : (∀ type, ids.known cache type = none) →
    subscriberAnswer cache ids.subscriptionData lock = (0, "")
  conflict : ∀ type type' subscriberId other, ids.known cache type = some subscriberId →
    ids.known cache type' = some other → subscriberId ≠ other →
    subscriberAnswer cache ids.subscriptionData lock = (EINVAL, "")
  knownOnly : ∀ ids' : Identifiers, (∀ type, ids'.known cache type = ids.known cache type) →
    subscriberAnswer cache ids'.subscriptionData lock =
      subscriberAnswer cache ids.subscriptionData lock

/-! ### The lookups -/

section

variable {cache : SubscriberCache}

/-- The subscribers that the lookups find. -/
def foundBy (cache : SubscriberCache) (lookups : List (SubscriberIdType × String)) :
    List String :=
  lookups.filterMap fun lookup => cache.data lookup.1 lookup.2

/-- The subscriber before the lookups and all that they find are one. -/
def Unanimous (strSubscriberId : String) (found : List String) : Prop :=
  ∃ subscriberId, Agrees strSubscriberId subscriberId ∧ ∀ id ∈ found, id = subscriberId

theorem foundBy_cons_none {lookup : SubscriberIdType × String}
    (h : cache.data lookup.1 lookup.2 = none) (rest : List (SubscriberIdType × String)) :
    foundBy cache (lookup :: rest) = foundBy cache rest :=
  List.filterMap_cons_none h

theorem foundBy_cons_some {lookup : SubscriberIdType × String} {subscriberId : String}
    (h : cache.data lookup.1 lookup.2 = some subscriberId)
    (rest : List (SubscriberIdType × String)) :
    foundBy cache (lookup :: rest) = subscriberId :: foundBy cache rest :=
  List.filterMap_cons_some h

/-- One lookup: what is not known is passed over, and what is known has to agree. -/
theorem checkData_cases (cache : SubscriberCache) (type : SubscriberIdType) (value : String)
    (lock : RwLock) (strSubscriberId : String) :
    ∃ lock', (cache.data type value = none ∧
        pcrfSubscriberCacheCheckData 0 cache type (.of value) lock strSubscriberId =
          (true, lock', strSubscriberId)) ∨
      (∃ found, cache.data type value = some found ∧ Agrees strSubscriberId found ∧
        pcrfSubscriberCacheCheckData 0 cache type (.of value) lock strSubscriberId =
          (true, lock', found)) ∨
      (∃ found, cache.data type value = some found ∧ ¬ Agrees strSubscriberId found ∧
        pcrfSubscriberCacheCheckData 0 cache type (.of value) lock strSubscriberId =
          (false, lock', strSubscriberId)) := by
  cases hdata : cache.data type value with
  | none =>
    refine ⟨lock.rdlock, .inl ⟨rfl, ?_⟩⟩
    simp [pcrfSubscriberCacheCheckData, hdata]
  | some found =>
    by_cases agrees : Agrees strSubscriberId found
    · exact ⟨lock, .inr (.inl ⟨found, rfl, agrees, checkData_of_found hdata agrees lock⟩)⟩
    · refine ⟨lock.rdlock, .inr (.inr ⟨found, rfl, agrees, ?_⟩)⟩
      simp only [Agrees, not_or] at agrees
      simp [pcrfSubscriberCacheCheckData, hdata, agrees.1, agrees.2]

/-- Lookups that agree give what they found, or what was there before when they find nothing. -/
theorem checkAll_of_unanimous {lookups : List (SubscriberIdType × String)}
    {strSubscriberId subscriberId : String} (agrees : Agrees strSubscriberId subscriberId)
    (all : ∀ id ∈ foundBy cache lookups, id = subscriberId) (lock : RwLock) :
    ∃ lock', checkAll (fun _ => 0) cache lookups lock strSubscriberId =
      (true, lock', if foundBy cache lookups = [] then strSubscriberId else subscriberId) := by
  -- the subscriber found first is passed on, so what was there before is generalised
  induction lookups generalizing lock strSubscriberId with
  | nil => exact ⟨lock, rfl⟩
  | cons lookup rest ih =>
    obtain ⟨type, value⟩ := lookup
    obtain ⟨lock', hcases⟩ := checkData_cases cache type value lock strSubscriberId
    simp only [checkAll]
    rcases hcases with ⟨hnone, hcheck⟩ | ⟨found, hfound, -, hcheck⟩ | ⟨found, hfound, hnot, -⟩
    · rw [foundBy_cons_none hnone] at all ⊢
      rw [hcheck]
      exact ih agrees all lock'
    · rw [foundBy_cons_some hfound] at all ⊢
      obtain ⟨rfl, all⟩ := List.forall_mem_cons.mp all
      rw [hcheck]
      obtain ⟨lock'', hrest⟩ := ih (.inr rfl) all lock'
      exact ⟨lock'', by simpa using hrest⟩
    · rw [foundBy_cons_some hfound] at all
      obtain ⟨rfl, -⟩ := List.forall_mem_cons.mp all
      exact absurd agrees hnot

/-- Lookups that do not agree fail. -/
theorem checkAll_of_not_unanimous {lookups : List (SubscriberIdType × String)}
    {strSubscriberId : String} (h : ¬ Unanimous strSubscriberId (foundBy cache lookups))
    (lock : RwLock) :
    (checkAll (fun _ => 0) cache lookups lock strSubscriberId).1 = false := by
  induction lookups generalizing lock strSubscriberId with
  | nil => exact absurd ⟨strSubscriberId, .inr rfl, by simp [foundBy]⟩ h
  | cons lookup rest ih =>
    obtain ⟨type, value⟩ := lookup
    obtain ⟨lock', hcases⟩ := checkData_cases cache type value lock strSubscriberId
    simp only [checkAll]
    rcases hcases with ⟨hnone, hcheck⟩ | ⟨found, hfound, agrees, hcheck⟩ | ⟨found, -, -, hcheck⟩
    · rw [foundBy_cons_none hnone] at h
      rw [hcheck]
      exact ih h lock'
    · rw [hcheck]
      refine ih (fun unanimous => h ?_) lock'
      obtain ⟨subscriberId, same, all⟩ := unanimous
      -- what was found is a subscriber, so that the others are the same one
      obtain rfl := same.resolve_left (cache.named _ _ _ hfound)
      rw [foundBy_cons_some hfound]
      exact ⟨found, agrees, List.forall_mem_cons.mpr ⟨rfl, all⟩⟩
    · rw [hcheck]

end

/-! ### The answer -/

section

variable {cache : SubscriberCache} {ids : Identifiers}

/-- A lookup of an absent identifier is one of the empty string, which is no key. -/
theorem data_coValue (noEmpty : ∀ type, cache.data type "" = none) (type : SubscriberIdType) :
    cache.data type (ids.coValue type).v = ids.known cache type := by
  unfold Identifiers.coValue Identifiers.known
  cases ids type with
  | none => exact noEmpty type
  | some value => rfl

theorem mem_foundBy_lookups (noEmpty : ∀ type, cache.data type "" = none) (id : String) :
    id ∈ foundBy cache ids.subscriptionData.lookups ↔ ∃ type, ids.known cache type = some id := by
  have hvalue : ∀ type, cache.data type (ids.coValue type).v = ids.known cache type :=
    data_coValue noEmpty
  simp only [foundBy, SSubscriptionIdData.lookups, Identifiers.subscriptionData,
    List.mem_filterMap, List.mem_cons, List.not_mem_nil, or_false]
  constructor
  -- there is one lookup for each type
  · rintro ⟨lookup, rfl | rfl | rfl | rfl | rfl, hid⟩
    · exact ⟨_, (hvalue _).symm.trans hid⟩
    · exact ⟨_, (hvalue _).symm.trans hid⟩
    · exact ⟨_, (hvalue _).symm.trans hid⟩
    · exact ⟨_, (hvalue _).symm.trans hid⟩
    · exact ⟨_, (hvalue _).symm.trans hid⟩
  · rintro ⟨type, hid⟩
    refine ⟨(type, (ids.coValue type).v), ?_, (hvalue type).trans hid⟩
    cases type <;> simp

theorem subscriberAnswer_of_unanimous {data : SSubscriptionIdData} {subscriberId : String}
    (all : ∀ id ∈ foundBy cache data.lookups, id = subscriberId) (lock : RwLock) :
    subscriberAnswer cache data lock =
      (0, if foundBy cache data.lookups = [] then "" else subscriberId) := by
  obtain ⟨lock', hall⟩ := checkAll_of_unanimous (.inl rfl) all lock
  simp only [subscriberAnswer, pcrfSubscriberCacheGetSubscriberId, hall]

theorem subscriberAnswer_of_not_unanimous {data : SSubscriptionIdData}
    (h : ¬ Unanimous "" (foundBy cache data.lookups)) (lock : RwLock) :
    subscriberAnswer cache data lock = (EINVAL, "") := by
  have hfails := checkAll_of_not_unanimous h lock
  unfold subscriberAnswer pcrfSubscriberCacheGetSubscriberId
  split
  next hall => rw [hall] at hfails; cases hfails
  next => rfl

section

variable (noEmpty : ∀ type, cache.data type "" = none) (lock : RwLock)
include noEmpty

theorem subscriberAnswer_one {subscriberId : String}
    (hknown : ∃ type, ids.known cache type = some subscriberId)
    (same : ∀ type other, ids.known cache type = some other → other = subscriberId) :
    subscriberAnswer cache ids.subscriptionData lock = (0, subscriberId) := by
  have all : ∀ id ∈ foundBy cache ids.subscriptionData.lookups, id = subscriberId := by
    intro id hid
    obtain ⟨type, htype⟩ := (mem_foundBy_lookups noEmpty id).mp hid
    exact same type id htype
  have found := (mem_foundBy_lookups noEmpty subscriberId).mpr hknown
  rw [subscriberAnswer_of_unanimous all lock, if_neg (List.ne_nil_of_mem found)]

theorem subscriberAnswer_unknown (hnone : ∀ type, ids.known cache type = none) :
    subscriberAnswer cache ids.subscriptionData lock = (0, "") := by
  have hempty : foundBy cache ids.subscriptionData.lookups = [] := by
    refine List.eq_nil_iff_forall_not_mem.mpr fun id hid => ?_
    obtain ⟨type, htype⟩ := (mem_foundBy_lookups noEmpty id).mp hid
    rw [hnone type] at htype
    cases htype
  have all : ∀ id ∈ foundBy cache ids.subscriptionData.lookups, id = "" := by simp [hempty]
  rw [subscriberAnswer_of_unanimous all lock, if_pos hempty]

theorem subscriberAnswer_conflict {type type' : SubscriberIdType} {subscriberId other : String}
    (hknown : ids.known cache type = some subscriberId)
    (hother : ids.known cache type' = some other) (differ : subscriberId ≠ other) :
    subscriberAnswer cache ids.subscriptionData lock = (EINVAL, "") := by
  refine subscriberAnswer_of_not_unanimous ?_ lock
  rintro ⟨id, -, all⟩
  have first := all subscriberId ((mem_foundBy_lookups noEmpty _).mpr ⟨type, hknown⟩)
  have second := all other ((mem_foundBy_lookups noEmpty _).mpr ⟨type', hother⟩)
  exact differ (first.trans second.symm)

/-- The three cases ask for nothing but what is known. -/
theorem subscriberAnswer_knownOnly {ids' : Identifiers}
    (same : ∀ type, ids'.known cache type = ids.known cache type) :
    subscriberAnswer cache ids'.subscriptionData lock =
      subscriberAnswer cache ids.subscriptionData lock := by
  by_cases hsome : ∃ type subscriberId, ids.known cache type = some subscriberId
  · obtain ⟨type, subscriberId, hknown⟩ := hsome
    by_cases hsame : ∀ type other, ids.known cache type = some other → other = subscriberId
    · rw [subscriberAnswer_one noEmpty lock ⟨type, hknown⟩ hsame]
      refine subscriberAnswer_one noEmpty lock ⟨type, (same type).trans hknown⟩ ?_
      intro type other h
      exact hsame type other ((same type).symm.trans h)
    · push Not at hsame
      obtain ⟨type', other, hother, differ⟩ := hsame
      rw [subscriberAnswer_conflict noEmpty lock hother hknown differ]
      exact subscriberAnswer_conflict noEmpty lock ((same type').trans hother)
        ((same type).trans hknown) differ
  · push Not at hsome
    have hnone : ∀ type, ids.known cache type = none := fun type =>
      Option.eq_none_iff_forall_ne_some.mpr (hsome type)
    rw [subscriberAnswer_unknown noEmpty lock hnone]
    exact subscriberAnswer_unknown noEmpty lock fun type => (same type).trans (hnone type)

end

/-- The one subscriber of the known identifiers, the empty string when none is known, and a
failure when two of them are of different subscribers. -/
theorem answersKnown (noEmpty : ∀ type, cache.data type "" = none) (ids : Identifiers)
    (lock : RwLock) : AnswersKnown cache ids lock where
  one _ := subscriberAnswer_one noEmpty lock
  unknown := subscriberAnswer_unknown noEmpty lock
  conflict _ _ _ _ := subscriberAnswer_conflict noEmpty lock
  knownOnly _ := subscriberAnswer_knownOnly noEmpty lock

/-- Two subscribers, one known by the number and the other by the IMSI. -/
theorem answersKnown_two :
    AnswersKnown ((SubscriberCache.empty.loadRow
      { strSubscriberId := "1", coEndUserIMSI := .of "250990" }).loadRow
      { strSubscriberId := "2", coEndUserE164 := .of "7900" })
      (fun type => if type = .endUserSIPURI then none else some "250990") {} := by
  refine answersKnown (fun type => ?_) _ {}
  cases type <;> rfl

end

end Pcrf
