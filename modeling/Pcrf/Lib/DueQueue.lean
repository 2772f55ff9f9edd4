import Mathlib.Data.List.Induction
import Pcrf.Lib.Multimap

/-!
Queues of entries by the time they are due. An entry is added with its time, and what is due is
taken out, with the clock at any value: every entry is taken by the first step after it that
finds it due, and each step takes its entries by the time they are due, those of one time in the
order they were added.
-/

namespace Lib

/-- An entry is added, or what is due at a clock value is taken. -/
inductive DueStep (κ ν : Type*) where
  | add (due : κ) (value : ν)
  | take (now : κ)

/-- An entry with the number of the step that adds it. -/
structure Added (κ ν : Type*) where
  number : ℕ
  due : κ
  value : ν

variable {κ ν : Type*} [LinearOrder κ]

/-- By the time they are due, and then in the order they were added. -/
def Added.Before (a b : Added κ ν) : Prop := a.due < b.due ∨ a.due = b.due ∧ a.number < b.number

namespace DueStep

def apply (queue : Multimap κ ν) : DueStep κ ν → Multimap κ ν
  | add due value => queue.insert due value
  | take now => queue.eraseUpTo now

/-- The queue after the steps. -/
def queueAfter (steps : List (DueStep κ ν)) : Multimap κ ν := steps.foldl apply .empty

/-- The step that adds the entry is among the steps. -/
def Adds (steps : List (DueStep κ ν)) (a : Added κ ν) : Prop :=
  steps[a.number]? = some (add a.due a.value)

/-- The entry was added, and no step took it since. -/
structure Waits (steps : List (DueStep κ ν)) (a : Added κ ν) : Prop where
  adds : Adds steps a
  early : ∀ j now, a.number < j → steps[j]? = some (take now) → now < a.due

/-- Step `j` is the first after the entry was added that finds it due. -/
structure FirstTake (steps : List (DueStep κ ν)) (a : Added κ ν) (j : ℕ) : Prop where
  adds : Adds steps a
  later : a.number < j
  due : ∃ now, steps[j]? = some (take now) ∧ a.due ≤ now
  early : ∀ i now, a.number < i → i < j → steps[i]? = some (take now) → now < a.due

/-- The entries as a list, in the order in which they are taken. -/
structure ListedInOrder (P : Added κ ν → Prop) (entries : List (κ × ν))
    (added : List (Added κ ν)) : Prop where
  ordered : added.Pairwise Added.Before
  exactly : ∀ a, a ∈ added ↔ P a
  entries : entries = added.map fun a => (a.due, a.value)

/-! ### One step -/

section

variable {steps : List (DueStep κ ν)} {P : Added κ ν → Prop} {entries : List (κ × ν)}
  {added : List (Added κ ν)}

@[simp] theorem queueAfter_snoc (steps : List (DueStep κ ν)) (step : DueStep κ ν) :
    queueAfter (steps ++ [step]) = apply (queueAfter steps) step :=
  List.foldl_append ..

omit [LinearOrder κ] in
theorem getElem?_snoc_eq_some {step other : DueStep κ ν} {j : ℕ} :
    (steps ++ [step])[j]? = some other ↔
      steps[j]? = some other ∨ j = steps.length ∧ step = other := by
  rcases lt_trichotomy j steps.length with h | h | h
  · rw [List.getElem?_append_left h]
    simp [h.ne]
  · rw [h, List.getElem?_concat_length, List.getElem?_eq_none (le_refl _)]
    simp
  · rw [List.getElem?_eq_none (by simp; omega), List.getElem?_eq_none h.le]
    simp [h.ne']

omit [LinearOrder κ] in
theorem Adds.lt {a : Added κ ν} (h : Adds steps a) : a.number < steps.length :=
  (List.getElem?_eq_some_iff.mp h).1

/-- What comes behind the entries of an earlier or the same time is in its place. -/
theorem ListedInOrder.insert (h : ListedInOrder P entries added) {a : Added κ ν}
    (newest : ∀ b, P b → b.number < a.number) :
    ∃ more, ListedInOrder (fun b => P b ∨ b = a)
      (Multimap.insertEntry a.due a.value entries) more := by
  obtain ⟨ordered, exactly, rfl⟩ := h
  have older : ∀ b ∈ added, b.number < a.number := fun b hb => newest b ((exactly b).mp hb)
  -- the new entry is put into the list of the added ones as it is put into the queue
  have place : ∃ more : List (Added κ ν), more.Pairwise Added.Before ∧ more.Perm (a :: added) ∧
      Multimap.insertEntry a.due a.value (added.map fun a => (a.due, a.value)) =
        more.map fun a => (a.due, a.value) := by
    clear exactly newest
    induction added with
    | nil => exact ⟨[a], List.pairwise_singleton .., .refl _, rfl⟩
    | cons b added ih =>
      rw [List.pairwise_cons] at ordered
      obtain ⟨hb, older⟩ := List.forall_mem_cons.mp older
      by_cases hle : b.due ≤ a.due
      · obtain ⟨more, sorted, perm, heq⟩ := ih ordered.2 older
        refine ⟨b :: more, List.pairwise_cons.mpr ⟨fun c hc => ?_, sorted⟩,
          (perm.cons b).trans (.swap ..), ?_⟩
        · rcases List.mem_cons.mp (perm.mem_iff.mp hc) with rfl | hc
          -- of the same time the one that was there is older
          · exact hle.lt_or_eq.imp id fun heq => ⟨heq, hb⟩
          · exact ordered.1 c hc
        · simp only [List.map_cons, Multimap.insertEntry, if_pos hle, heq]
      · have hlt := not_le.mp hle
        refine ⟨a :: b :: added, List.pairwise_cons.mpr ⟨fun c hc => ?_,
          List.pairwise_cons.mpr ordered⟩, .refl _, ?_⟩
        · rcases List.mem_cons.mp hc with rfl | hc
          · exact .inl hlt
          · rcases ordered.1 c hc with hbc | ⟨hbc, -⟩
            · exact .inl (hlt.trans hbc)
            · exact .inl (hbc ▸ hlt)
        · simp only [List.map_cons, Multimap.insertEntry, if_neg hle]
  obtain ⟨more, sorted, perm, heq⟩ := place
  refine ⟨more, sorted, fun b => ?_, heq⟩
  rw [perm.mem_iff, List.mem_cons, exactly, or_comm]

/-- A part chosen by the times keeps the order. -/
theorem ListedInOrder.filter (h : ListedInOrder P entries added) (p : κ → Bool) :
    ListedInOrder (fun a => P a ∧ p a.due = true) (entries.filter fun e => p e.1)
      (added.filter fun a => p a.due) := by
  obtain ⟨ordered, exactly, rfl⟩ := h
  refine ⟨ordered.filter _, fun a => ?_, ?_⟩
  · rw [List.mem_filter, exactly]
  · rw [List.filter_map]
    rfl

theorem ListedInOrder.congr (h : ListedInOrder P entries added) {Q : Added κ ν → Prop}
    (same : ∀ a, P a ↔ Q a) : ListedInOrder Q entries added :=
  ⟨h.ordered, fun a => (h.exactly a).trans (same a), h.entries⟩

theorem waits_snoc_add_iff {due : κ} {value : ν} {a : Added κ ν} :
    Waits (steps ++ [add due value]) a ↔ Waits steps a ∨ a = ⟨steps.length, due, value⟩ := by
  constructor
  · rintro ⟨adds, early⟩
    rcases getElem?_snoc_eq_some.mp adds with adds | ⟨hnumber, hstep⟩
    · exact .inl ⟨adds, fun j now hj hnow =>
        early j now hj (getElem?_snoc_eq_some.mpr (.inl hnow))⟩
    · cases hstep
      exact .inr (by rw [← hnumber])
  · rintro (⟨adds, early⟩ | rfl)
    · refine ⟨getElem?_snoc_eq_some.mpr (.inl adds), fun j now hj hnow => ?_⟩
      rcases getElem?_snoc_eq_some.mp hnow with hnow | ⟨-, hstep⟩
      · exact early j now hj hnow
      · cases hstep
    · refine ⟨getElem?_snoc_eq_some.mpr (.inr ⟨rfl, rfl⟩), fun j now hj hnow => ?_⟩
      -- it is the last step, so that none is later
      have hlt := (List.getElem?_eq_some_iff.mp hnow).1
      simp only [List.length_append, List.length_singleton] at hlt
      exact absurd (Nat.lt_succ_iff.mp hlt) (not_le.mpr hj)

theorem waits_snoc_take_iff {now : κ} {a : Added κ ν} :
    Waits (steps ++ [take now]) a ↔ Waits steps a ∧ now < a.due := by
  constructor
  · rintro ⟨adds, early⟩
    have adds : Adds steps a := (getElem?_snoc_eq_some.mp adds).resolve_right (by simp)
    refine ⟨⟨adds, fun j now' hj hnow => ?_⟩, ?_⟩
    · exact early j now' hj (getElem?_snoc_eq_some.mpr (.inl hnow))
    · exact early steps.length now adds.lt (getElem?_snoc_eq_some.mpr (.inr ⟨rfl, rfl⟩))
  · rintro ⟨⟨adds, early⟩, hdue⟩
    refine ⟨getElem?_snoc_eq_some.mpr (.inl adds), fun j now' hj hnow => ?_⟩
    rcases getElem?_snoc_eq_some.mp hnow with hnow | ⟨-, hstep⟩
    · exact early j now' hj hnow
    · cases hstep
      exact hdue

end

/-! ### Runs -/

section

variable {steps : List (DueStep κ ν)}

/-- The queue is what waits, in order. -/
theorem exists_waiting (steps : List (DueStep κ ν)) :
    ∃ added, ListedInOrder (Waits steps) (queueAfter steps).entries added := by
  induction steps using List.reverseRecOn with
  | nil =>
    refine ⟨[], .nil, fun a => ?_, rfl⟩
    exact iff_of_false (by simp) fun h => by simpa using h.adds.lt
  | append_singleton steps step ih =>
    obtain ⟨added, listed⟩ := ih
    rw [queueAfter_snoc]
    cases step with
    | add due value =>
      obtain ⟨more, placed⟩ := listed.insert (a := ⟨steps.length, due, value⟩)
        fun b hb => hb.adds.lt
      exact ⟨more, placed.congr fun a => waits_snoc_add_iff.symm⟩
    | take now =>
      -- what is left keeps its order
      have left := listed.filter fun due => now < due
      rw [← Multimap.eraseUpTo_eq_filter] at left
      refine ⟨_, left.congr fun a => ?_⟩
      rw [waits_snoc_take_iff, decide_eq_true_eq]

/-- A step takes the entries for which it is the first that finds them due, in order. -/
theorem exists_taken {j : ℕ} {now : κ} (h : steps[j]? = some (take now)) :
    ∃ added, ListedInOrder (FirstTake steps · j) ((queueAfter (steps.take j)).upTo now) added := by
  obtain ⟨added, listed⟩ := exists_waiting (steps.take j)
  have due := listed.filter (· ≤ now)
  rw [← Multimap.upTo_eq_filter] at due
  refine ⟨_, due.congr fun a => ?_⟩
  rw [decide_eq_true_eq]
  constructor
  · rintro ⟨⟨adds, early⟩, hdue⟩
    have hlt : a.number < j := by simpa using lt_of_lt_of_le adds.lt (List.length_take_le ..)
    refine ⟨?_, hlt, ⟨now, h, hdue⟩, fun i now' hi hij hnow => ?_⟩
    · rwa [Adds, List.getElem?_take_of_lt hlt] at adds
    · exact early i now' hi (by rwa [List.getElem?_take_of_lt hij])
  · rintro ⟨adds, hlt, ⟨now', hnow', hdue⟩, early⟩
    obtain rfl : now = now' := by simpa [h] using hnow'
    refine ⟨⟨?_, fun i now' hi hnow => ?_⟩, hdue⟩
    · rwa [Adds, List.getElem?_take_of_lt hlt]
    · by_cases hij : i < j
      · rw [List.getElem?_take_of_lt hij] at hnow
        exact early i now' hi hij hnow
      · rw [List.getElem?_take_eq_none (not_lt.mp hij)] at hnow
        cases hnow

theorem FirstTake.unique {a : Added κ ν} {i j : ℕ} (hi : FirstTake steps a i)
    (hj : FirstTake steps a j) : i = j := by
  obtain ⟨now, hnow, hdue⟩ := hi.due
  obtain ⟨now', hnow', hdue'⟩ := hj.due
  rcases lt_trichotomy i j with h | h | h
  · exact absurd (hj.early i now hi.later h hnow) (not_lt.mpr hdue)
  · exact h
  · exact absurd (hi.early j now' hj.later h hnow') (not_lt.mpr hdue')

/-- What is found due at all is taken once, by the first step that finds it due. -/
theorem existsUnique_firstTake {a : Added κ ν} (adds : Adds steps a) {j : ℕ} (later : a.number < j)
    {now : κ} (hnow : steps[j]? = some (take now)) (hdue : a.due ≤ now) :
    ∃! i, FirstTake steps a i := by
  have found : ∃ i, a.number < i ∧ ∃ now, steps[i]? = some (take now) ∧ a.due ≤ now :=
    ⟨j, later, now, hnow, hdue⟩
  classical
  -- the least of the steps that find it due
  obtain ⟨hlater, hfirst⟩ := Nat.find_spec found
  have first : FirstTake steps a (Nat.find found) := by
    refine ⟨adds, hlater, hfirst, fun i now' hi hlt hnow' => ?_⟩
    by_contra hnot
    exact Nat.find_min found hlt ⟨hi, now', hnow', not_lt.mp hnot⟩
  exact ⟨_, first, fun i hi => hi.unique first⟩

/-- What waits is what was added and not taken. -/
theorem waits_iff_not_firstTake {a : Added κ ν} :
    Waits steps a ↔ Adds steps a ∧ ∀ j, ¬ FirstTake steps a j := by
  constructor
  · rintro ⟨adds, early⟩
    refine ⟨adds, fun j taken => ?_⟩
    obtain ⟨now, hnow, hdue⟩ := taken.due
    exact absurd (early j now taken.later hnow) (not_lt.mpr hdue)
  · rintro ⟨adds, never⟩
    refine ⟨adds, fun j now later hnow => ?_⟩
    -- had it been found due, the first step to find it so would have taken it
    by_contra hnot
    obtain ⟨i, hi, -⟩ := existsUnique_firstTake adds later hnow (not_lt.mp hnot)
    exact never i hi

end

end DueStep

end Lib
