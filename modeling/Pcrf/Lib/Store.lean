import Mathlib.Logic.Function.Basic
import Mathlib.Data.List.Sort

/-!
Keyed stores read by lookup, and inverted indices over them.

A `Store` is what a map answers to `find`. An `Index` is a store of lists: it holds, under
each key, the values filed there. `Index.Inverts ix key` says that the index is the inverse
of the partial function `key`, which is what every secondary index of a record store is
meant to be.
-/

namespace Lib

/-- A keyed store, given by what a lookup answers. -/
abbrev Store (κ ν : Type*) := κ → Option ν

namespace Store

variable {κ ν : Type*}

/-- The store without entries. -/
def empty : Store κ ν := fun _ => none

@[simp] theorem empty_apply (k : κ) : (empty : Store κ ν) k = none := rfl

variable [DecidableEq κ]

/-- Bind `k` to `v`, replacing what was there. -/
def set (s : Store κ ν) (k : κ) (v : ν) : Store κ ν := Function.update s k (some v)

/-- Remove the entry of `k`. -/
def erase (s : Store κ ν) (k : κ) : Store κ ν := Function.update s k none

theorem erase_apply (s : Store κ ν) (k j : κ) :
    s.erase k j = if j = k then none else s j :=
  Function.update_apply s k none j

@[simp] theorem set_self (s : Store κ ν) (k : κ) (v : ν) : s.set k v k = some v :=
  Function.update_self ..

@[simp] theorem set_of_ne {j k : κ} (h : j ≠ k) (s : Store κ ν) (v : ν) : s.set k v j = s j :=
  Function.update_of_ne h ..

@[simp] theorem erase_self (s : Store κ ν) (k : κ) : s.erase k k = none :=
  Function.update_self ..

@[simp] theorem erase_of_ne {j k : κ} (h : j ≠ k) (s : Store κ ν) : s.erase k j = s j :=
  Function.update_of_ne h ..

/-- A new entry that is taken out again leaves no trace. -/
theorem erase_set_of_none {s : Store κ ν} {k : κ} (h : s k = none) (v : ν) :
    (s.set k v).erase k = s := by
  funext j
  by_cases hj : j = k
  · rw [hj, erase_self, h]
  · rw [erase_of_ne hj, set_of_ne hj]

end Store

/-- A store of lists: under each key, the values filed there. -/
abbrev Index (α β : Type*) := Store α (List β)

namespace Index

variable {α β : Type*}

/-- The values filed under `k`; a missing entry counts as an empty one. -/
def entries (ix : Index α β) (k : α) : List β := (ix k).getD []

/-- The index is the inverse of `key`: `b` is filed under `k` exactly when `k` is its key. -/
def Inverts (ix : Index α β) (key : β → Option α) : Prop :=
  ∀ k b, b ∈ entries ix k ↔ key b = some k

/-- No list of the index holds a value twice. -/
def Distinct (ix : Index α β) : Prop := ∀ k, (entries ix k).Nodup

@[simp] theorem entries_empty (k : α) : entries (Store.empty : Index α β) k = [] := rfl

theorem Inverts.empty : Inverts (Store.empty : Index α β) (fun _ => none) := by
  intro k b
  simp

theorem Distinct.empty : Distinct (Store.empty : Index α β) := by
  intro k
  simp

variable [DecidableEq α]

/-- File `b` at the end of the list of `k`, creating the entry when there is none. -/
def push (ix : Index α β) (k : α) (b : β) : Index α β :=
  match ix k with
  | some l => ix.set k (l ++ [b])
  | none => ix.set k [b]

theorem entries_push (ix : Index α β) (k j : α) (b : β) :
    entries (push ix k b) j = if j = k then entries ix k ++ [b] else entries ix j := by
  unfold entries push
  by_cases hj : j = k
  · subst hj
    cases h : ix j <;> simp
  · cases h : ix k <;> simp [hj]

theorem push_of_ne {j k : α} (h : j ≠ k) (ix : Index α β) (b : β) : push ix k b j = ix j := by
  unfold push
  cases ix k with
  | none => exact Store.set_of_ne h ..
  | some l => exact Store.set_of_ne h ..

theorem entries_erase (ix : Index α β) (k j : α) :
    entries (Store.erase ix k) j = if j = k then [] else entries ix j := by
  unfold entries
  rw [Store.erase_apply]
  split <;> rfl

variable [DecidableEq β]

/-- Remove every occurrence of `b` from the list of `k`; the entry itself stays. -/
def purge (ix : Index α β) (k : α) (b : β) : Index α β :=
  match ix k with
  | some l => ix.set k (l.filter (· ≠ b))
  | none => ix

/-- File `b` in the ordered set of `k`, which holds a value once. -/
def insertSet (r : β → β → Prop) [DecidableRel r] (ix : Index α β) (k : α) (b : β) :
    Index α β :=
  match ix k with
  | some l => ix.set k (if b ∈ l then l else l.orderedInsert r b)
  | none => ix.set k [b]

theorem purge_of_ne {j k : α} (h : j ≠ k) (ix : Index α β) (b : β) : purge ix k b j = ix j := by
  unfold purge
  cases ix k with
  | none => rfl
  | some l => exact Store.set_of_ne h ..

theorem entries_purge (ix : Index α β) (k j : α) (b : β) :
    entries (purge ix k b) j =
      if j = k then (entries ix k).filter (· ≠ b) else entries ix j := by
  unfold entries purge
  by_cases hj : j = k
  · subst hj
    cases h : ix j <;> simp [h]
  · cases h : ix k <;> simp [hj]

theorem mem_entries_insertSet (r : β → β → Prop) [DecidableRel r] (ix : Index α β) (k j : α)
    (b c : β) :
    c ∈ entries (insertSet r ix k b) j ↔ c ∈ entries ix j ∨ (j = k ∧ c = b) := by
  unfold entries insertSet
  by_cases hj : j = k
  · subst hj
    cases h : ix j with
    | none => simp
    | some l =>
      by_cases hb : b ∈ l
      · -- a set takes no second copy, so the list stays as it was
        simp only [hb, if_true, Store.set_self, Option.getD_some, true_and]
        exact ⟨Or.inl, fun hc => hc.elim id fun e => e ▸ hb⟩
      · simp [hb, List.mem_orderedInsert, or_comm]
  · cases h : ix k <;> simp [hj]

namespace Inverts

variable {ix : Index α β} {key : β → Option α}

omit [DecidableEq α] [DecidableEq β] in
theorem mem_iff_exists (h : Inverts ix key) {k : α} {b : β} :
    key b = some k ↔ ∃ l, ix k = some l ∧ b ∈ l := by
  rw [← h k b]
  unfold entries
  cases ix k <;> simp

omit [DecidableEq α] [DecidableEq β] in
/-- Only membership matters: a list may hold a value several times. -/
theorem of_mem_iff (h : Inverts ix key) {ix' : Index α β}
    (same : ∀ k b, b ∈ entries ix' k ↔ b ∈ entries ix k) : Inverts ix' key :=
  fun k b => (same k b).trans (h k b)

omit [DecidableEq α] [DecidableEq β] in
/-- An index is the inverse of one function only. -/
theorem unique (h : Inverts ix key) {key' : β → Option α} (h' : Inverts ix key') :
    key' = key := by
  funext b
  exact Option.ext fun k => (h' k b).symm.trans (h k b)

/-- Filing a value that is filed nowhere else gives it its key. -/
theorem push (h : Inverts ix key) {k : α} {b : β} (hb : key b = none ∨ key b = some k) :
    Inverts (Index.push ix k b) (Function.update key b (some k)) := by
  intro j c
  rw [entries_push, Function.update_apply]
  by_cases hj : j = k
  · subst hj
    by_cases hc : c = b
    · simp [hc]
    · simp [hc, h j c]
  · by_cases hc : c = b
    · -- under another key the value was not filed before and is not now
      subst hc
      have hne : key c ≠ some j := by
        rcases hb with hb | hb <;> simp [hb, Ne.symm hj]
      simp [hj, h j c, hne, Ne.symm hj]
    · simp [hj, hc, h j c]

/-- The same for an index whose lists are ordered sets. -/
theorem insertSet (r : β → β → Prop) [DecidableRel r] (h : Inverts ix key) {k : α} {b : β}
    (hb : key b = none ∨ key b = some k) :
    Inverts (Index.insertSet r ix k b) (Function.update key b (some k)) := by
  intro j c
  rw [mem_entries_insertSet, h j c, Function.update_apply]
  by_cases hc : c = b
  · subst hc
    rcases hb with hb | hb <;> simp [hb, eq_comm]
  · simp [hc]

/-- Purging a value from the list of its key leaves it without a key. -/
theorem purge (h : Inverts ix key) {k : α} {b : β} (hb : key b = none ∨ key b = some k) :
    Inverts (Index.purge ix k b) (Function.update key b none) := by
  intro j c
  rw [entries_purge, Function.update_apply]
  by_cases hj : j = k
  · subst hj
    by_cases hc : c = b <;> simp [hc, h j c]
  · by_cases hc : c = b
    · subst hc
      have hne : key c ≠ some j := by
        rcases hb with hb | hb <;> simp [hb, Ne.symm hj]
      simp [hj, h j c, hne]
    · simp [hj, hc, h j c]

omit [DecidableEq β] in
/-- Dropping a whole entry takes the key from every value filed there. -/
theorem eraseKey (h : Inverts ix key) (k : α) :
    Inverts (Store.erase ix k) (fun b => if key b = some k then none else key b) := by
  intro j c
  rw [entries_erase]
  by_cases hj : j = k
  · subst hj
    by_cases hc : key c = some j <;> simp [hc]
  · by_cases hc : key c = some k
    · simp [hj, hc, h j c, Ne.symm hj]
    · simp [hj, hc, h j c]

end Inverts

namespace Distinct

variable {ix : Index α β}

omit [DecidableEq β] in
theorem push (h : Distinct ix) {k : α} {b : β} (hb : b ∉ entries ix k) :
    Distinct (Index.push ix k b) := by
  intro j
  rw [entries_push]
  split
  · exact List.nodup_append.mpr ⟨h k, by simp, by
      intro x hx y hy hxy
      rw [List.mem_singleton] at hy
      exact hb (hy ▸ hxy ▸ hx)⟩
  · exact h j

omit [DecidableEq β] in
theorem eraseKey (h : Distinct ix) (k : α) : Distinct (Store.erase ix k) := by
  intro j
  rw [entries_erase]
  split
  · exact List.nodup_nil
  · exact h j

theorem purge (h : Distinct ix) (k : α) (b : β) : Distinct (Index.purge ix k b) := by
  intro j
  rw [entries_purge]
  split
  · exact (h k).filter _
  · exact h j

end Distinct

/-! ### Filing a value and purging it again -/

section RoundTrip

variable {ix : Index α β} {k : α} {b : β}

theorem entries_purge_push (j : α) :
    entries (purge (push ix k b) k b) j = entries (purge ix k b) j := by
  simp only [entries_purge, entries_push]
  split
  · simp
  · rfl

/-- Purging changes no list exactly if the value is not in the one that it is purged from. -/
theorem entries_purge_eq_iff :
    (∀ j, entries (purge ix k b) j = entries ix j) ↔ b ∉ entries ix k := by
  simp only [entries_purge]
  constructor
  · intro same hmem
    have hk := same k
    rw [if_pos rfl, List.filter_eq_self] at hk
    simpa using hk b hmem
  · intro hb j
    split
    next hj =>
      rw [hj, List.filter_eq_self]
      intro c hc
      simpa using fun h : c = b => hb (h ▸ hc)
    next => rfl

/-- An entry that was made for the value stays when it is purged. -/
theorem purge_eq_of_filed {ix' : Index α β} {l : List β} (hother : ∀ j, j ≠ k → ix' j = ix j)
    (hk : ix' k = some l) (hl : l.filter (· ≠ b) = (entries ix k).filter (· ≠ b)) :
    ix'.purge k b = ix ↔ ∃ l, ix k = some l ∧ b ∉ l := by
  have purged : ix'.purge k b k = some ((entries ix k).filter (· ≠ b)) := by
    simp only [purge, hk, Store.set_self, hl]
  constructor
  · intro heq
    rw [heq] at purged
    refine ⟨_, purged, fun hmem => ?_⟩
    simpa using (List.mem_filter.mp hmem).2
  · rintro ⟨l', hl', hb⟩
    funext j
    by_cases hj : j = k
    · have kept : (entries ix k).filter (· ≠ b) = l' := by
        rw [entries, hl', Option.getD_some, List.filter_eq_self]
        intro c hc
        simpa using fun h : c = b => hb (h ▸ hc)
      rw [hj, purged, kept, hl']
    · rw [purge_of_ne hj, hother j hj]

theorem purge_push_eq_iff : (push ix k b).purge k b = ix ↔ ∃ l, ix k = some l ∧ b ∉ l := by
  have hk : push ix k b k = some (entries ix k ++ [b]) := by
    unfold push entries
    cases h : ix k <;> simp
  exact purge_eq_of_filed (fun j hj => push_of_ne hj ix b) hk (by simp)

theorem filter_orderedInsert (r : β → β → Prop) [DecidableRel r] (l : List β) :
    (l.orderedInsert r b).filter (· ≠ b) = l.filter (· ≠ b) := by
  rw [List.orderedInsert_eq_take_drop, List.filter_append]
  simp only [ne_eq, decide_not, List.filter_cons, decide_true, Bool.not_true, Bool.false_eq_true,
    if_false]
  rw [← List.filter_append, List.takeWhile_append_dropWhile]

theorem purge_insertSet_eq_iff (r : β → β → Prop) [DecidableRel r] :
    (insertSet r ix k b).purge k b = ix ↔ ∃ l, ix k = some l ∧ b ∉ l := by
  cases hk : ix k with
  | none =>
    have filed : insertSet r ix k b = ix.set k [b] := by simp only [insertSet, hk]
    rw [filed, purge_eq_of_filed (fun j hj => Store.set_of_ne hj ..) (Store.set_self ..) ?_, hk]
    simp [entries, hk]
  | some l =>
    have filed : insertSet r ix k b = ix.set k (if b ∈ l then l else l.orderedInsert r b) := by
      simp only [insertSet, hk]
    rw [filed, purge_eq_of_filed (fun j hj => Store.set_of_ne hj ..) (Store.set_self ..) ?_, hk]
    rw [entries, hk, Option.getD_some]
    split
    · rfl
    · exact filter_orderedInsert r l

end RoundTrip

/-- The index is the inverse of `key` and lists every value once. -/
def Exact (ix : Index α β) (key : β → Option α) : Prop := ix.Inverts key ∧ ix.Distinct

namespace Exact

variable {ix : Index α β} {key : β → Option α}

theorem push (h : Exact ix key) {k : α} {b : β} (hb : key b = none) :
    Exact (Index.push ix k b) (Function.update key b (some k)) := by
  refine ⟨h.1.push (.inl hb), h.2.push ?_⟩
  rw [h.1 k b, hb]
  exact Option.some_ne_none k ∘ Eq.symm

theorem purge (h : Exact ix key) {k : α} {b : β} (hb : key b = none ∨ key b = some k) :
    Exact (Index.purge ix k b) (Function.update key b none) :=
  ⟨h.1.purge hb, h.2.purge k b⟩

omit [DecidableEq α] [DecidableEq β] in
/-- An index that is not touched stays exact only as long as no key changes. -/
theorem iff_key_eq (h : Exact ix key) (key' : β → Option α) : Exact ix key' ↔ key' = key :=
  ⟨fun h' => h.1.unique h'.1, fun heq => heq ▸ h⟩

end Exact

end Index

end Lib
