import Mathlib.Data.String.Basic
import Pcrf.Quota

/-!
The map of monitoring keys: a key that is entered again keeps what it was entered with first.
-/

namespace Pcrf

/-- The entries stand in the order of their keys. -/
def MonitInfoMap.Sorted (mapMonitInfo : MonitInfoMap) : Prop :=
  mapMonitInfo.Pairwise fun entry later => entry.1 < later.1

def MonitInfoMap.find (mapMonitInfo : MonitInfoMap) (key : String) : Option SDBMonitoringInfo :=
  (mapMonitInfo.find? fun entry => entry.1 = key).map Prod.snd

namespace MonitInfoMap

theorem find_cons (entry : String × SDBMonitoringInfo) (rest : MonitInfoMap) (key : String) :
    find (entry :: rest) key = if entry.1 = key then some entry.2 else find rest key := by
  unfold find
  by_cases h : entry.1 = key
  · simp [h]
  · simp [h]

theorem find_of_lt {mapMonitInfo : MonitInfoMap} {key : String}
    (h : ∀ entry ∈ mapMonitInfo, key < entry.1) : mapMonitInfo.find key = none := by
  simp only [find, Option.map_eq_none_iff, List.find?_eq_none, decide_eq_true_eq]
  intro entry hentry same
  exact absurd (same ▸ h entry hentry) (lt_irrefl key)

theorem mem_insert {mapMonitInfo : MonitInfoMap} {key : String} {info : SDBMonitoringInfo}
    {entry : String × SDBMonitoringInfo} (h : entry ∈ mapMonitInfo.insert key info) :
    entry = (key, info) ∨ entry ∈ mapMonitInfo := by
  induction mapMonitInfo with
  | nil => simpa [insert] using h
  | cons first rest ih =>
    unfold insert at h
    split at h
    · exact .inr h
    · split at h
      · simpa using h
      · rcases List.mem_cons.mp h with rfl | h
        · exact .inr List.mem_cons_self
        · exact (ih h).imp_right (List.mem_cons_of_mem first)

theorem Sorted.insert {mapMonitInfo : MonitInfoMap} (h : mapMonitInfo.Sorted) (key : String)
    (info : SDBMonitoringInfo) : (MonitInfoMap.insert mapMonitInfo key info).Sorted := by
  induction mapMonitInfo with
  | nil => exact List.pairwise_singleton _ _
  | cons first rest ih =>
    obtain ⟨hfirst, hrest⟩ := List.pairwise_cons.mp h
    unfold MonitInfoMap.insert
    split
    next => exact h
    next hne =>
      split
      next hlt =>
        refine List.pairwise_cons.mpr ⟨fun entry hentry => ?_, h⟩
        rcases List.mem_cons.mp hentry with rfl | hentry
        · exact hlt
        · exact hlt.trans (hfirst entry hentry)
      next hnlt =>
        have hgt : first.1 < key := lt_of_le_of_ne (not_lt.mp hnlt) (Ne.symm hne)
        refine List.pairwise_cons.mpr ⟨fun entry hentry => ?_, ih hrest⟩
        rcases mem_insert hentry with rfl | hentry
        · exact hgt
        · exact hfirst entry hentry

/-- A key that is there keeps its value. -/
theorem Sorted.find_insert {mapMonitInfo : MonitInfoMap} (h : mapMonitInfo.Sorted)
    (key : String) (info : SDBMonitoringInfo) (k : String) :
    (MonitInfoMap.insert mapMonitInfo key info).find k =
      (mapMonitInfo.find k).or (if key = k then some info else none) := by
  induction mapMonitInfo with
  | nil => simp [MonitInfoMap.insert, find]
  | cons first rest ih =>
    obtain ⟨hfirst, hrest⟩ := List.pairwise_cons.mp h
    unfold MonitInfoMap.insert
    split
    next heq =>
      subst heq
      rw [find_cons]
      by_cases hk : first.1 = k <;> simp [hk]
    next hne =>
      split
      next hlt =>
        -- every key of the map is greater
        have hnone : find (first :: rest) key = none := by
          refine find_of_lt fun entry hentry => ?_
          rcases List.mem_cons.mp hentry with rfl | hentry
          · exact hlt
          · exact hlt.trans (hfirst entry hentry)
        rw [find_cons]
        by_cases hk : key = k
        · subst hk
          simp [hnone]
        · simp [hk]
      next hnlt =>
        rw [find_cons, find_cons, ih hrest]
        by_cases hk : first.1 = k <;> simp [hk]

/-- Entering a key that is there changes nothing. -/
theorem Sorted.insert_of_find {mapMonitInfo : MonitInfoMap} (h : mapMonitInfo.Sorted)
    {key : String} (hkey : mapMonitInfo.find key ≠ none) (info : SDBMonitoringInfo) :
    MonitInfoMap.insert mapMonitInfo key info = mapMonitInfo := by
  induction mapMonitInfo with
  | nil => exact absurd rfl hkey
  | cons first rest ih =>
    obtain ⟨hfirst, hrest⟩ := List.pairwise_cons.mp h
    unfold MonitInfoMap.insert
    split
    next => rfl
    next hne =>
      rw [find_cons, if_neg (Ne.symm hne)] at hkey
      split
      next hlt =>
        have hnone := find_of_lt fun entry hentry => hlt.trans (hfirst entry hentry)
        exact absurd hnone hkey
      next => rw [ih hrest hkey]

/-- Enter keys of which nothing is known yet. -/
def insertKeys (keys : List String) (mapMonitInfo : MonitInfoMap) : MonitInfoMap :=
  keys.foldl (fun map key => map.insert key {}) mapMonitInfo

theorem Sorted.insertKeys {mapMonitInfo : MonitInfoMap} (h : mapMonitInfo.Sorted)
    (keys : List String) : (mapMonitInfo.insertKeys keys).Sorted := by
  induction keys generalizing mapMonitInfo with
  | nil => exact h
  | cons key keys ih => exact ih (h.insert key {})

theorem Sorted.find_insertKeys {mapMonitInfo : MonitInfoMap} (h : mapMonitInfo.Sorted)
    (keys : List String) (k : String) :
    (mapMonitInfo.insertKeys keys).find k =
      (mapMonitInfo.find k).or (if k ∈ keys then some {} else none) := by
  induction keys generalizing mapMonitInfo with
  | nil => simp [MonitInfoMap.insertKeys]
  | cons key keys ih =>
    have step : mapMonitInfo.insertKeys (key :: keys) =
        (mapMonitInfo.insert key {}).insertKeys keys := rfl
    rw [step, ih (h.insert key {}), h.find_insert, Option.or_assoc]
    congr 1
    by_cases hk : key = k
    · simp [hk]
    · simp [hk, Ne.symm hk]

/-- Keys that were entered are not entered again. -/
theorem Sorted.insertKeys_again {mapMonitInfo : MonitInfoMap} (h : mapMonitInfo.Sorted)
    (keys : List String) :
    (mapMonitInfo.insertKeys keys).insertKeys keys = mapMonitInfo.insertKeys keys := by
  have entered : ∀ key ∈ keys, (mapMonitInfo.insertKeys keys).find key ≠ none := by
    intro key hkey
    rw [h.find_insertKeys, if_pos hkey]
    simp
  have hsorted := h.insertKeys keys
  generalize mapMonitInfo.insertKeys keys = map at entered hsorted
  -- the map stays what it is, key by key
  clear h
  induction keys with
  | nil => rfl
  | cons key keys ih =>
    obtain ⟨hkey, hkeys⟩ := List.forall_mem_cons.mp entered
    have step : map.insertKeys (key :: keys) = (map.insert key {}).insertKeys keys := rfl
    rw [step, hsorted.insert_of_find hkey, ih hkeys]

end MonitInfoMap

end Pcrf
